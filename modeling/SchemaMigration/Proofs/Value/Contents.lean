import Mathlib.Order.Lattice
import SchemaMigration.Value.Basic

/-!
# What values hold

A value is made of other values, which stand in its lists and maps at any depth.

## Main definitions

* `Value.Holds` — a value stands in another, or is the other.
* `Value.nesting` — how deep lists and maps are nested in a value.
-/

namespace SchemaMigration.Value

/-- Holds if the second value is the first, or stands in its lists and maps at any depth. -/
inductive Holds : Value → Value → Prop
  | self {v} : Holds v v
  | item {items v w} (hv : v ∈ items) (h : Holds v w) : Holds (.list items) w
  | field {fields w} {p : String × Value} (hp : p ∈ fields) (h : Holds p.2 w) :
      Holds (.map fields) w

/-- What is no list or map holds itself only. -/
theorem holds_leaf_iff {v w : Value} (hlist : ∀ items, v ≠ .list items)
    (hmap : ∀ fields, v ≠ .map fields) : Holds v w ↔ w = v := by
  constructor
  · intro h
    cases h with
    | self => rfl
    | item => exact absurd rfl (hlist _)
    | field => exact absurd rfl (hmap _)
  · rintro rfl
    exact .self

theorem holds_list_iff {items : List Value} {w : Value} :
    Holds (.list items) w ↔ w = .list items ∨ ∃ v ∈ items, v.Holds w := by
  constructor
  · intro h
    cases h with
    | self => exact .inl rfl
    | item hv h => exact .inr ⟨_, hv, h⟩
  · rintro (rfl | ⟨v, hv, h⟩)
    · exact .self
    · exact .item hv h

theorem holds_map_iff {fields : List (String × Value)} {w : Value} :
    Holds (.map fields) w ↔ w = .map fields ∨ ∃ p ∈ fields, p.2.Holds w := by
  constructor
  · intro h
    cases h with
    | self => exact .inl rfl
    | field hp h => exact .inr ⟨_, hp, h⟩
  · rintro (rfl | ⟨p, hp, h⟩)
    · exact .self
    · exact .field hp h

/-! ## Depth -/

mutual

/-- How deep lists and maps are nested in a value. -/
def nesting : Value → Nat
  | .list items => itemsNesting items + 1
  | .map fields => fieldsNesting fields + 1
  | _ => 0

def itemsNesting : List Value → Nat
  | [] => 0
  | v :: vs => max v.nesting (itemsNesting vs)

def fieldsNesting : List (String × Value) → Nat
  | [] => 0
  | (_, v) :: fields => max v.nesting (fieldsNesting fields)

end

theorem itemsNesting_le_iff {items : List Value} {n : Nat} :
    itemsNesting items ≤ n ↔ ∀ v ∈ items, v.nesting ≤ n := by
  induction items with
  | nil => simp [itemsNesting]
  | cons v vs ih => simp [itemsNesting, ih]

theorem fieldsNesting_le_iff {fields : List (String × Value)} {n : Nat} :
    fieldsNesting fields ≤ n ↔ ∀ p ∈ fields, p.2.nesting ≤ n := by
  induction fields with
  | nil => simp [fieldsNesting]
  | cons p fields ih => simp [fieldsNesting, ih]

end SchemaMigration.Value
