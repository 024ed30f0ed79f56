import Mathlib.Data.PFunctor.Univariate.M
import SchemaMigration.Proofs.Script.Border
import SchemaMigration.Proofs.Value.Contents

/-!
# Unfoldings

The tables of a session may share tables and lead back to themselves. A value that is followed
through them unfolds to a tree, which is infinite where tables lead back. What the value becomes is
the value of that tree down to a depth: the tables below it are left out. So the lists and maps of
the result are nested no deeper.

## Main definitions

* `unfolding` — the tree of a value.
* `Unfolding.cut` — the tree down to a depth.
* `CutTree.value` — the value of a finite tree.

The main result is `Session.Listing.value_eq_cut_and_nesting_le`.
-/

namespace SchemaMigration

open Session (border isSequence)

/-! ## Unfoldings -/

/-- What shows of a value at first: the keys of a table, in the order in which they are met, or a
value that is no table. -/
inductive Look where
  | leaf (v : ScriptValue)
  | table (keys : List ScriptValue)

namespace Look

/-- The keys that lead on. -/
def Branch : Look → Type
  | .leaf _ => Empty
  | .table keys => {key // key ∈ keys}

/-- Looks with something at each key that leads on. -/
abbrev functor : PFunctor := ⟨Look, Branch⟩

end Look

/-- The tree that a value is when it is followed through all its tables. A table that is met again
is unfolded again, so that the tree may be infinite. -/
abbrev Unfolding := Look.functor.M

/-- What shows of a value where places hold tables. -/
def look (heap : Nat → Table) : ScriptValue → Look.functor ScriptValue
  | .table place => ⟨.table ((heap place).map Prod.fst), fun key => (heap place).get key.1⟩
  | v => ⟨.leaf v, Empty.elim⟩

/-- The unfolding of a value where places hold tables. -/
def unfolding (heap : Nat → Table) (v : ScriptValue) : Unfolding := .corec (look heap) v

/-- A finite tree, in which tables may have been cut off. -/
inductive CutTree where
  | leaf (v : ScriptValue)
  | table (entries : List (ScriptValue × CutTree))
  | cut

/-- The tree down to a depth. Tables that are deeper are cut off. -/
def Unfolding.cut : Nat → Unfolding → CutTree
  | 0, tree =>
    match tree.dest with
    | ⟨.leaf v, _⟩ => .leaf v
    | ⟨.table _, _⟩ => .cut
  | depth + 1, tree =>
    match tree.dest with
    | ⟨.leaf v, _⟩ => .leaf v
    | ⟨.table keys, next⟩ => .table (keys.attach.map fun key => (key.1, cut depth (next key)))

section Cut

variable {heap : Nat → Table} {depth place : Nat} {v : ScriptValue}

/-- One look at a value, and the unfoldings of what it leads to. -/
theorem dest_unfolding (heap : Nat → Table) (v : ScriptValue) :
    (unfolding heap v).dest = Look.functor.map (unfolding heap) (look heap v) :=
  PFunctor.M.dest_corec _ _

theorem cut_leaf (h : ∀ place, v ≠ .table place) :
    (unfolding heap v).cut depth = .leaf v := by
  cases v with
  | table place => exact absurd rfl (h place)
  | _ => cases depth <;> simp only [Unfolding.cut, dest_unfolding] <;> rfl

theorem cut_table_zero : (unfolding heap (.table place)).cut 0 = .cut := by
  simp only [Unfolding.cut, dest_unfolding]
  rfl

/-- A table leads to its values by its keys. -/
theorem cut_table_succ (hnodup : ((heap place).map Prod.fst).Nodup) :
    (unfolding heap (.table place)).cut (depth + 1) =
      .table ((heap place).map fun e => (e.1, (unfolding heap e.2).cut depth)) := by
  have hcut : (unfolding heap (.table place)).cut (depth + 1) =
      .table (((heap place).map Prod.fst).attach.map fun key =>
        (key.1, (unfolding heap ((heap place).get key.1)).cut depth)) := by
    rw [Unfolding.cut, dest_unfolding]
    rfl
  have hkeys (f : ScriptValue → ScriptValue × CutTree) :
      (((heap place).map Prod.fst).attach.map fun key => f key.1) =
        (heap place).map fun e => f e.1 := by
    rw [List.attach_map_val, List.map_map]
    rfl
  rw [hcut, hkeys fun key => (key, (unfolding heap ((heap place).get key)).cut depth)]
  refine congrArg CutTree.table (List.map_congr_left fun e he => ?_)
  rw [Table.get_of_mem hnodup he]

end Cut

namespace CutTree

/-- The value of a table by the values of its entries: a list in the order of the keys if these are
the numbers from 1 on, or else a map by the texts of the keys, where a later entry replaces an
earlier one. -/
def entriesValue (entries : List (ScriptValue × Value)) : Value :=
  if (entries.map Prod.fst).Perm (Table.numbers entries.length) then
    .list ((Table.numbers entries.length).filterMap (List.lookup · entries))
  else .ofFields (entries.filterMap fun e => e.1.keyText?.map (·, e.2))

mutual

/-- The value of a finite tree. -/
def value (leaf : ScriptValue → Value) : CutTree → Value
  | .leaf v => leaf v
  | .table entries => entriesValue (entryValues leaf entries)
  | .cut => .null

/-- The values of the entries of a table. -/
def entryValues (leaf : ScriptValue → Value) :
    List (ScriptValue × CutTree) → List (ScriptValue × Value)
  | [] => []
  | (key, tree) :: entries => (key, tree.value leaf) :: entryValues leaf entries

end

theorem entryValues_eq_map (leaf : ScriptValue → Value) (entries : List (ScriptValue × CutTree)) :
    entryValues leaf entries = entries.map fun e => (e.1, e.2.value leaf) := by
  induction entries with
  | nil => rfl
  | cons e entries ih => simp [entryValues, ih]

end CutTree

namespace Table

variable {t es : Table}

theorem lookup_map (item : ScriptValue → Value) {key : ScriptValue} (h : es.get key ≠ .nil) :
    List.lookup key (es.map fun e => (e.1, item e.2)) = some (item (es.get key)) := by
  induction es with
  | nil => exact absurd rfl h
  | cons e es ih =>
    by_cases hkey : e.1 = key
    · simp [Table.get, hkey]
    · have hne : (key == e.1) = false := by simpa using Ne.symm hkey
      simp only [Table.get, hkey, if_false] at h ⊢
      simp [List.lookup_cons, hne, ih h]

/-- The value of a table is that of its entries, with their values in place. -/
theorem listedValue_eq_entriesValue (ht : t.WellFormed) (hes : es.Perm t)
    (item : ScriptValue → Value) :
    listedValue item es (border t) = CutTree.entriesValue (es.map fun e => (e.1, item e.2)) := by
  have hlength : (es.map fun e => (e.1, item e.2)).length = t.length := by
    rw [List.length_map, hes.length_eq]
  have hkeys : ((es.map fun e => (e.1, item e.2)).map Prod.fst).Perm (t.map Prod.fst) := by
    rw [List.map_map]
    exact hes.map Prod.fst
  by_cases h : isSequence t (border t) = true
  · have hcounts : t.CountsTo (border t) := countsTo_of_isSequence ht h
    have hnumbers : (t.map Prod.fst).Perm (numbers t.length) :=
      hcounts.length_eq ht ▸ (countsTo_iff_perm ht).1 hcounts
    rw [CutTree.entriesValue, if_pos (hlength ▸ hkeys.trans hnumbers), hlength,
      hcounts.length_eq ht, listedValue_of_isSequence hes h, numbered, numbers, List.map_map,
      List.filterMap_map, ← List.filterMap_eq_map]
    refine congrArg Value.list (List.filterMap_congr fun i hi => ?_)
    rw [List.mem_range'_1] at hi
    have hget : es.get (.int i) ≠ .nil := by
      rw [ht.get_perm hes]
      exact get_ne_nil_of_le_border hi.1 (by omega)
    simp [lookup_map item hget, ht.get_perm hes]
  · have hnot : ¬((es.map fun e => (e.1, item e.2)).map Prod.fst).Perm
        (numbers (es.map fun e => (e.1, item e.2)).length) := by
      intro hnumbers
      have hcounts := (countsTo_iff_perm ht).2 (hkeys.symm.trans hnumbers)
      exact h ((isSequence_iff ht (isBorder_border t)).2 ⟨_, hcounts⟩)
    rw [CutTree.entriesValue, if_neg hnot, listedValue_of_not_isSequence hes h, Value.ofFields,
      fields, List.filterMap_map]
    rfl

end Table

/-! ## Depth -/

namespace Table

variable {item : ScriptValue → Value} {es : Table} {n b : Nat}

theorem nesting_listedValue (h : ∀ v, (item v).nesting ≤ n) :
    (listedValue item es b).nesting ≤ n + 1 := by
  unfold listedValue
  split
  · simp only [Value.nesting, Nat.add_le_add_iff_right, Value.itemsNesting_le_iff]
    intro v hv
    obtain ⟨e, -, rfl⟩ := List.mem_map.1 hv
    exact h e.2
  · simp only [Value.ofFields, Value.nesting, Nat.add_le_add_iff_right,
      Value.fieldsNesting_le_iff]
    intro p hp
    obtain ⟨e, -, -, hvalue⟩ := mem_fields.1 (Dict.mem_of_mem_ofList hp)
    exact hvalue ▸ h e.2

end Table

/-! ## Values of sessions -/

namespace Session

variable {s : Session} {q : Quoter} {hidden : Option Nat} {levels : Nat} {v : ScriptValue}

namespace Listing

/-- The orders in which a table is met alike at every level. -/
def steady (heap : Nat → Table) (h : ∀ place, (heap place).Perm (s.table place)) : s.Listing :=
  ⟨fun _ => heap, fun _ => h⟩

/-- What is converted so many levels deep is nested no deeper. -/
theorem nesting_value (l : s.Listing) : (l.value q hidden levels v).nesting ≤ levels := by
  have hleaf (v : ScriptValue) : (s.leafValue q hidden v).nesting = 0 := by
    unfold leafValue
    repeat' split
    all_goals rfl
  induction levels generalizing v with
  | zero => exact (hleaf v).le
  | succ levels ih =>
    cases v with
    | table place => exact Table.nesting_listedValue fun v => ih
    | _ => exact (hleaf _).le.trans (Nat.zero_le _)

/-- A value becomes what its unfolding is, cut off at the depth of the conversion. -/
theorem value_steady (hs : ∀ place, (s.table place).WellFormed) {heap : Nat → Table}
    (h : ∀ place, (heap place).Perm (s.table place)) :
    (steady heap h).value q hidden levels v =
      ((unfolding heap v).cut levels).value (s.leafValue q hidden) := by
  induction levels generalizing v with
  | zero =>
    cases v with
    | table place =>
      rw [cut_table_zero]
      rfl
    | _ => rw [cut_leaf (by simp)]; rfl
  | succ levels ih =>
    cases v with
    | table place =>
      have hnodup : ((heap place).map Prod.fst).Nodup :=
        ((h place).map Prod.fst).nodup_iff.2 (hs place).nodup
      rw [cut_table_succ hnodup, CutTree.value, CutTree.entryValues_eq_map, List.map_map, value]
      change Table.listedValue _ (heap place) _ = _
      rw [Table.listedValue_eq_entriesValue (hs place) (h place)]
      simp only [ih]
      rfl
    | _ => rw [cut_leaf (by simp)]; rfl

/-- A value of a session becomes what its unfolding is, cut off at depth 16, and its lists and maps
are nested at most 16 deep, wherever its tables lead. This holds in whatever order the entries of
the tables are met, and the session meets them in one. -/
theorem value_eq_cut_and_nesting_le (hs : ∀ place, (s.table place).WellFormed) (q : Quoter)
    (hidden : Option Nat) :
    (∃ (heap : Nat → Table) (h : ∀ place, (heap place).Perm (s.table place)), ∀ v,
      s.toValueAt q hidden maxLevels v = (steady heap h).value q hidden maxLevels v) ∧
    ∀ (heap : Nat → Table) (h : ∀ place, (heap place).Perm (s.table place)) (v : ScriptValue),
      (steady heap h).value q hidden maxLevels v =
        ((unfolding heap v).cut 16).value (s.leafValue q hidden) ∧
      ((steady heap h).value q hidden maxLevels v).nesting ≤ 16 := by
  refine ⟨⟨_, (own s).perm 0, fun v => ?_⟩, fun heap h v => ⟨?_, ?_⟩⟩
  · exact (value_own maxLevels v).symm
  · exact value_steady hs h
  · exact nesting_value _

end Listing

/-- A session with two tables that lead to each other, and one of them to itself. -/
def entangled : Session :=
  (((create "default").newTable [(.ofString "self", .table 2), (.int 1, .table 3)]).2.newTable
    [(.ofString "up", .table 2), (.ofString "n", .int 7)]).2

theorem wellFormed_entangled (place : Nat) : (entangled.table place).WellFormed := by
  match place with
  | 0 => exact ⟨by decide +kernel, by decide +kernel⟩
  | 1 => exact ⟨by decide +kernel, by decide +kernel⟩
  | 2 => exact ⟨by decide +kernel, by decide +kernel⟩
  | 3 => exact ⟨by decide +kernel, by decide +kernel⟩
  | place + 4 => exact ⟨List.nodup_nil, by rintro e ⟨⟩⟩

theorem value_eq_cut_entangled :
    (∀ place, (entangled.table place).WellFormed) ∧
      (Listing.steady entangled.table fun _ => .refl _).value {} none maxLevels (.table 2) =
        ((unfolding entangled.table (.table 2)).cut 16).value (entangled.leafValue {} none) ∧
      ((Listing.steady entangled.table fun _ => .refl _).value {} none maxLevels
        (.table 2)).nesting ≤ 16 := by
  have hvalue := Listing.value_eq_cut_and_nesting_le wellFormed_entangled {} none
  exact ⟨wellFormed_entangled, hvalue.2 entangled.table (fun _ => .refl _) (.table 2)⟩

example : (entangled.toValue {} (.table 2)).nesting = 16 := by decide +kernel

end Session

end SchemaMigration
