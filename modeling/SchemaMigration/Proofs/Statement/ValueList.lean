import SchemaMigration.Expression
import SchemaMigration.Proofs.Statement.Nesting
import SchemaMigration.Proofs.Value.Literal

/-!
# Lists of values

What the registered builder writes for a list of values, and what a reader of quotes and parentheses
makes of literals: it passes each as a whole.

## Main definitions

* `ExpressionRegistry.BuildsLists` — lists of values have their builder.
* `ExpressionRegistry.GuardsLists` — no other builder writes lists of values.

The main result on literals is `scan_literal`.
-/

namespace SchemaMigration

open Position

/-! ## Results that may fail -/

section Except

variable {ε α β : Type} {x : Except ε α} {b : β}

theorem map_eq_ok_iff {f : α → β} : x.map f = .ok b ↔ ∃ a, x = .ok a ∧ f a = b := by
  cases x <;> simp [Except.map]

theorem bind_eq_ok_iff {f : α → Except ε β} :
    x >>= f = .ok b ↔ ∃ a, x = .ok a ∧ f a = .ok b := by
  cases x <;> simp [bind, Except.bind]

end Except

/-! ## The text of a list -/

/-- Holds of a builder that answers every list of values with one error. -/
def ExpressionBuilder.RefusesLists (b : ExpressionBuilder) : Prop :=
  ∃ e, ∀ values bound params, b.build (.array values bound) params = .error e

namespace ExpressionRegistry

/-- The class of lists of values is registered with the builder for them. -/
def BuildsLists (r : ExpressionRegistry) : Prop := r.builders.get? arrayClass = some .array

theorem buildsLists_usual : usual.BuildsLists := rfl

/-- The literals of the values, lists among them spread out once. -/
theorem listText_eq {r : ExpressionRegistry} (h : r.BuildsLists) (vs : List Value) :
    r.listText vs =
      .ok (", ".intercalate ((vs.flatMap ExpressionBuilder.spread).map Value.literal)) := by
  unfold BuildsLists at h
  rw [← String.ofList_toList (s := ", ".intercalate _)]
  simp [listText, build, Expression.cls, h, ExpressionBuilder.buildArray, Except.map,
    BuiltExpression.interpolate, BuiltExpression.weave_segments_nil]

/-- Holds if a builder for the class of lists of values is the one for them, or refuses them: a
builder is to refuse what is not of its own kind. -/
def GuardsLists (r : ExpressionRegistry) : Prop :=
  ∀ b, r.builders.get? arrayClass = some b → b = .array ∨ b.RefusesLists

theorem guardsLists_usual : usual.GuardsLists := by
  intro b hb
  exact .inl (Option.some.inj hb).symm

theorem BuildsLists.guardsLists {r : ExpressionRegistry} (h : r.BuildsLists) : r.GuardsLists := by
  intro b hb
  exact .inl (Option.some.inj (hb.symm.trans h))

theorem buildsLists_of_listText {r : ExpressionRegistry} (hr : r.GuardsLists) {vs : List Value}
    {text : String} (h : r.listText vs = .ok text) : r.BuildsLists := by
  obtain ⟨built, hbuilt, -⟩ := map_eq_ok_iff.1 h
  simp only [build, Expression.cls] at hbuilt
  cases hb : r.builders.get? arrayClass with
  | none => simp [hb] at hbuilt
  | some b =>
    rw [hb] at hbuilt
    rcases hr b hb with rfl | ⟨e, he⟩
    · exact hb
    · simp [he] at hbuilt

end ExpressionRegistry

/-! ## Reading literals -/

variable {ticks : Bool} {stop? : Option Char}

/-- Behind a single quote, one that is written twice is no end. -/
theorem scan_doubled (hstop : stop? ≠ some '\'') (depth : Nat) (cs : List Char) :
    scan ticks stop? ⟨depth, some '\''⟩ (Chars.replace '\'' ['\'', '\''] cs) =
      some ⟨depth, some '\''⟩ := by
  induction cs with
  | nil => rfl
  | cons c cs ih =>
    rw [Chars.replace_cons, scan_append]
    by_cases hc : c = '\''
    · simp [hc, scan, next, isQuote, hstop, ih]
    · simp [hc, scan, next, top, ih]

theorem scan_quoteText (hstop : stop? ≠ some '\'') (s : String) :
    scan ticks stop? top (Value.quoteText s).toList = some top := by
  simp [Value.quoteText, scan, scan_append, hstop, next, isQuote, top, scan_doubled hstop]

/-- The characters of literals outside of quotes and parentheses. -/
def isLiteralChar (c : Char) : Bool := ['N', 'U', 'L'].contains c || Value.isNumberChar c

theorem isWordChar_of_isLiteralChar {c : Char} (h : isLiteralChar c = true) :
    isWordChar c = true := by
  have hnot : ['\'', '\x60', '(', ')'].all (fun c => !isLiteralChar c) = true := by decide
  by_cases hc : c ∈ ['\'', '\x60', '(', ')']
  · have := List.all_eq_true.1 hnot c hc
    simp [h] at this
  · simpa [isWordChar] using hc

/-- Outside of parentheses a reader passes every literal that is not of a list, unless it stops at
one of the characters of words. -/
theorem scan_scalar {v : Value} (hv : ∀ items, v ≠ .list items)
    (hstop : stop?.all (fun c => c != '\'' && !isLiteralChar c) = true) :
    scan ticks stop? top v.literal.toList = some top := by
  have hquote : stop? ≠ some '\'' := by
    rintro rfl
    simp at hstop
  have hword : ∀ cs : List Char, cs.all isLiteralChar = true →
      scan ticks stop? top cs = some top := by
    intro cs hcs
    refine scan_words rfl (List.all_eq_true.2 fun c hc => ?_)
    have hliteral := List.all_eq_true.1 hcs c hc
    have hne : stop? ≠ some c := by
      rintro rfl
      simp [hliteral] at hstop
    simp [isWordChar_of_isLiteralChar hliteral, hne]
  cases v with
  | null => exact hword _ (by decide)
  | bool b => exact hword _ (by cases b <;> decide)
  | number x =>
    refine hword _ (List.all_eq_true.2 fun c hc => ?_)
    simp [isLiteralChar, Value.isNumberChar_of_mem hc]
  | text s => exact scan_quoteText hquote s
  | list items => exact absurd rfl (hv items)
  | map fields => exact scan_quoteText hquote _

mutual

/-- A reader passes every literal as a whole, and with it the values in it. -/
theorem scan_literal (v : Value) : scan ticks none top v.literal.toList = some top := by
  cases v with
  | list items =>
    simpa [Value.literal] using scan_intercalate (scan_words rfl (by decide)) (scan_each items)
  | _ => exact scan_scalar (by simp) (by simp)

theorem scan_each (vs : List Value) :
    ∀ cs ∈ (Value.literals vs).map String.toList, scan ticks none top cs = some top := by
  match vs with
  | [] => simp [Value.literals]
  | v :: vs => exact List.forall_mem_cons.2 ⟨scan_literal v, scan_each vs⟩

end

theorem scan_literals (vs : List Value) :
    scan ticks none top ([',', ' '].intercalate (vs.map fun v => v.literal.toList)) =
      some top :=
  scan_intercalate (scan_words rfl (by decide))
    (List.forall_mem_map.2 fun v _ => scan_literal v)

end SchemaMigration
