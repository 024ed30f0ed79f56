import Mathlib.Data.List.Basic
import Mathlib.Data.List.Induction
import Mathlib.Data.List.Nodup
import Mathlib.Data.List.Dedup
import Mathlib.Data.List.Perm.Basic
import Mathlib.Data.String.Basic
import SchemaMigration.Dict

/-!
# Dictionaries as sets of pairs

A dictionary keeps its names in order, so that it is known by what it has under them. The order of
the pairs that it is made of matters only where two of them have one name and different values.

## Main definitions

* `Dict.ext_of_sorted` — sorted dictionaries with the same values are the same.
* `Dict.ofList_congr` — the dictionary of pairs that agree, in any order.
* `Dict.length_ofList_eq_iff` — a dictionary has as many names as it was made of, if they differ.
-/

namespace SchemaMigration.Dict

variable {α : Type} {d d' : Dict α} {pairs pairs' : List (String × α)} {name : String} {a : α}

/-- Holds if the names are in strict order. -/
def Sorted (d : Dict α) : Prop := d.Pairwise fun p p' => p.1 < p'.1

theorem mem_of_mem_insert {p : String × α} (h : p ∈ d.insert name a) : p = (name, a) ∨ p ∈ d := by
  fun_induction insert d name a <;> grind

theorem Sorted.insert (h : d.Sorted) (name : String) (a : α) : (d.insert name a).Sorted := by
  induction d with
  | nil => exact List.pairwise_singleton _ _
  | cons p rest ih =>
    obtain ⟨hp, hrest⟩ := List.pairwise_cons.1 h
    simp only [Dict.insert]
    split
    · next hlt =>
      refine List.pairwise_cons.2 ⟨fun p' hp' => ?_, h⟩
      rcases List.mem_cons.1 hp' with rfl | hp'
      · exact hlt
      · exact lt_trans hlt (hp p' hp')
    · next hge =>
      split
      · next heq => exact List.pairwise_cons.2 ⟨fun p' hp' => heq ▸ hp p' hp', hrest⟩
      · next hne =>
        have hlt : p.1 < name := lt_of_le_of_ne (not_lt.1 hge) (Ne.symm hne)
        refine List.pairwise_cons.2 ⟨fun p' hp' => ?_, ih hrest⟩
        rcases mem_of_mem_insert hp' with rfl | hp'
        · exact hlt
        · exact hp p' hp'

/-- A pair after others is the last to be put in. -/
theorem ofList_concat (pairs : List (String × α)) (name : String) (a : α) :
    ofList (pairs ++ [(name, a)]) = (ofList pairs).insert name a := by
  simp only [ofList, List.foldl_append, List.foldl_cons, List.foldl_nil]

theorem sorted_ofList (pairs : List (String × α)) : (ofList pairs).Sorted := by
  induction pairs using List.reverseRecOn with
  | nil => exact List.Pairwise.nil
  | append_singleton pairs p ih =>
    rw [ofList_concat]
    exact ih.insert p.1 p.2

theorem mem_of_mem_ofList {p : String × α} (h : p ∈ ofList pairs) : p ∈ pairs := by
  induction pairs using List.reverseRecOn with
  | nil => exact h
  | append_singleton pairs last ih =>
    rw [ofList_concat] at h
    rcases mem_of_mem_insert h with rfl | h
    · exact List.mem_append_right _ (List.mem_singleton_self _)
    · exact List.mem_append_left _ (ih h)

theorem Sorted.nodup_names (h : d.Sorted) : d.names.Nodup :=
  List.pairwise_map.2 (h.imp fun hlt => ne_of_lt hlt)

/-- What a dictionary lists under a name is the name's value. -/
theorem Sorted.mem_iff (h : d.Sorted) : (name, a) ∈ d ↔ d.get? name = some a := by
  induction d with
  | nil => simp
  | cons p rest ih =>
    obtain ⟨hp, hrest⟩ := List.pairwise_cons.1 h
    have hfirst : (p.1, a) ∉ rest := fun hmem => lt_irrefl p.1 (hp (p.1, a) hmem)
    simp only [get?, List.mem_cons, ih hrest]
    split
    · next heq =>
      subst heq
      rw [ih hrest] at hfirst
      grind
    · grind

theorem ext_of_sorted (h : d.Sorted) (h' : d'.Sorted)
    (hget : ∀ name, d.get? name = d'.get? name) : d = d' := by
  have hnodup {d : Dict α} (h : d.Sorted) : d.Nodup := h.nodup_names.of_map Prod.fst
  have hperm : d.Perm d' := by
    refine (List.perm_ext_iff_of_nodup (hnodup h) (hnodup h')).2 fun p => ?_
    rw [h.mem_iff, h'.mem_iff, hget]
  exact hperm.eq_of_pairwise (fun p p' _ _ hlt hgt => absurd hgt (lt_asymm hlt)) h h'

/-- Pairs of which those with a name have one value give the name that value. -/
theorem get?_ofList (hmem : (name, a) ∈ pairs) (hsame : ∀ b, (name, b) ∈ pairs → b = a) :
    (ofList pairs).get? name = some a := by
  induction pairs using List.reverseRecOn with
  | nil => cases hmem
  | append_singleton pairs p ih =>
    rw [ofList_concat, get?_insert]
    split
    · next heq => rw [hsame p.2 (by simp [← heq])]
    · next hne =>
      have hbefore : (name, a) ∈ pairs := by grind
      exact ih hbefore fun b hb => hsame b (List.mem_append_left _ hb)

/-- Pairs that agree with each other make one dictionary in whatever order. -/
theorem ofList_congr (hmem : ∀ p, p ∈ pairs ↔ p ∈ pairs')
    (hsame : ∀ p ∈ pairs, ∀ p' ∈ pairs, p.1 = p'.1 → p.2 = p'.2) :
    ofList pairs = ofList pairs' := by
  refine ext_of_sorted (sorted_ofList pairs) (sorted_ofList pairs') fun name => ?_
  by_cases h : ∃ a, (name, a) ∈ pairs
  · obtain ⟨a, ha⟩ := h
    have hone : ∀ b, (name, b) ∈ pairs → b = a := fun b hb => hsame _ hb _ ha rfl
    rw [get?_ofList ha hone, get?_ofList ((hmem _).1 ha) fun b hb => hone b ((hmem _).2 hb)]
  · have hnone {ps : List (String × α)} (h : ¬ ∃ a, (name, a) ∈ ps) :
        (ofList ps).get? name = none := by
      rw [← Option.not_isSome_iff_eq_none, isSome_get?_iff, mem_names_ofList]
      simpa using h
    rw [hnone h, hnone (by simpa [hmem] using h)]

/-- Pairs with different names make the dictionary that they are when they are sorted. -/
theorem ofList_eq_of_perm (hd : d.Sorted) (hperm : pairs.Perm d) : ofList pairs = d := by
  refine ext_of_sorted (sorted_ofList pairs) hd fun name => ?_
  cases h : d.get? name with
  | none =>
    rw [← Option.not_isSome_iff_eq_none, isSome_get?_iff] at h ⊢
    rwa [mem_names_ofList, (hperm.map Prod.fst).mem_iff]
  | some a =>
    have hmem : (name, a) ∈ pairs := hperm.mem_iff.2 (hd.mem_iff.2 h)
    refine get?_ofList hmem fun b hb => ?_
    rw [hperm.mem_iff, hd.mem_iff, h] at hb
    exact (Option.some_inj.1 hb).symm

/-- A dictionary has the names of the pairs that it is made of, each once. -/
theorem names_ofList_perm (pairs : List (String × α)) :
    (ofList pairs).names.Perm (pairs.map Prod.fst).dedup := by
  refine (List.perm_ext_iff_of_nodup (sorted_ofList pairs).nodup_names (List.nodup_dedup _)).2 ?_
  intro name
  rw [mem_names_ofList, List.mem_dedup]

theorem length_ofList_eq_iff :
    (ofList pairs).length = pairs.length ↔ (pairs.map Prod.fst).Nodup := by
  have hlength : (ofList pairs).length = (pairs.map Prod.fst).dedup.length := by
    rw [← (names_ofList_perm pairs).length_eq, names, List.length_map]
  rw [hlength, ← List.dedup_eq_self]
  constructor
  · intro h
    exact (List.dedup_sublist _).eq_of_length (by rw [h, List.length_map])
  · intro h
    rw [h, List.length_map]

end SchemaMigration.Dict
