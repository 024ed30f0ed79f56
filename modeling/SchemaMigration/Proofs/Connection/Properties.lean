import Mathlib.Data.List.Basic
import Mathlib.Data.List.Induction
import SchemaMigration.Connection.Option
import SchemaMigration.Proofs.FormEncoding.ReadBack
import SchemaMigration.Proofs.Json.Refusal
import SchemaMigration.Proofs.Value.Dictionary

/-!
# Properties from form encoded pairs

The properties of a form encoded text are those of its pairs: a name that is not empty has all the
values that pairs give to it, in order and with commas between them. The text is no JSON, so that
it is not read as anything else.

## Main definitions

* `FormEncoding.valuesOf` — the values that pairs give to a name.

The main result is `parseExtras_write`.
-/

namespace SchemaMigration

namespace FormEncoding

variable {pairs : List (String × String)}

/-- The values that pairs give to a name, in order. -/
def valuesOf (pairs : List (String × String)) (name : String) : List String :=
  (pairs.filter (·.1 = name)).map (·.2)

theorem valuesOf_concat (pairs : List (String × String)) (p : String × String) (name : String) :
    valuesOf (pairs ++ [p]) name = valuesOf pairs name ++ if p.1 = name then [p.2] else [] := by
  by_cases h : p.1 = name <;> simp [valuesOf, h]

/-- A form encoded text with a pair has an equals sign. -/
theorem equals_mem_write (hne : pairs ≠ []) : '=' ∈ (write pairs).toList := by
  obtain ⟨p, pairs, rfl⟩ := List.exists_cons_of_ne_nil hne
  have hpair : '=' ∈ pairText p := by simp [pairText]
  rw [write, String.toList_ofList]
  cases pairs with
  | nil => simpa using hpair
  | cons q pairs =>
    rw [List.map_cons, List.map_cons, List.intercalate_cons_cons, List.append_assoc]
    exact List.mem_append_left _ hpair

theorem readJson_write (pairs : List (String × String)) : Json.read (write pairs) = none := by
  by_cases hne : pairs = []
  · subst hne
    decide +kernel
  · refine Json.read_eq_none (fun c hc hmem => ?_) (equals_mem_write hne)
    obtain rfl | rfl | hinner := mem_write hmem
    · simp at hc
    · simp at hc
    · exact hinner.2.2 (List.mem_cons_of_mem _ (List.mem_cons_of_mem _ hc))

end FormEncoding

open FormEncoding

variable {pairs : List (String × String)} {d : Dict String}

/-! ## Properties -/

theorem get?_addProperty (d : Dict String) (name value other : String) :
    (addProperty d name value).get? other =
      if name = other then
        some (match d.get? name with
          | some before => before ++ "," ++ value
          | none => value)
      else d.get? other := by
  rw [addProperty]
  cases d.get? name <;> simp [Dict.get?_insert]

theorem sorted_addProperty (h : d.Sorted) (name value : String) :
    (addProperty d name value).Sorted := by
  rw [addProperty]
  split <;> exact h.insert _ _

theorem formProperties_concat (pairs : List (String × String)) (p : String × String) :
    formProperties (pairs ++ [p]) =
      if p.1 = "" then formProperties pairs else addProperty (formProperties pairs) p.1 p.2 := by
  by_cases h : p.1 = "" <;> simp [formProperties, h]

theorem sorted_formProperties (pairs : List (String × String)) : (formProperties pairs).Sorted := by
  induction pairs using List.reverseRecOn with
  | nil => exact List.Pairwise.nil
  | append_singleton pairs p ih =>
    rw [formProperties_concat]
    split
    · exact ih
    · exact sorted_addProperty ih _ _

/-- A name that is not empty has its values with commas between them. -/
theorem get?_formProperties (pairs : List (String × String)) (name : String) :
    (formProperties pairs).get? name =
      if name = "" ∨ valuesOf pairs name = [] then none
      else some (",".intercalate (valuesOf pairs name)) := by
  induction pairs using List.reverseRecOn with
  | nil => simp [formProperties, valuesOf]
  | append_singleton pairs p ih =>
    rw [formProperties_concat, valuesOf_concat]
    by_cases hempty : p.1 = ""
    · -- the pair has no name, and only the empty name has its value
      rw [if_pos hempty, ih]
      by_cases hname : name = "" <;> simp [hempty, hname, Ne.symm]
    rw [if_neg hempty, get?_addProperty]
    by_cases hname : p.1 = name
    · subst hname
      rw [if_pos rfl, if_pos rfl, ih]
      by_cases hvalues : valuesOf pairs p.1 = []
      · simp [hempty, hvalues]
      · have hjoin :=
          String.intercalate_append_of_ne_nil hvalues (List.cons_ne_nil p.2 []) (s := ",")
        simp [hempty, hvalues, hjoin]
    · rw [if_neg hname, if_neg hname, ih, List.append_nil]

/-- The properties of a form encoded text are the values that its pairs give to each name. -/
theorem parseExtras_write (pairs : List (String × String)) :
    Text.trim (write pairs) = write pairs ∧ Json.read (write pairs) = none ∧
      (parseExtras (write pairs)).Sorted ∧
      ∀ name, (parseExtras (write pairs)).get? name =
        if name = "" ∨ valuesOf pairs name = [] then none
        else some (",".intercalate (valuesOf pairs name)) := by
  have hextras : parseExtras (write pairs) = formProperties pairs := by
    rw [parseExtras, trim_write, readJson_write, read_write]
    by_cases hne : pairs = []
    · subst hne
      rfl
    · have hequals : Text.has '=' (write pairs) = true := by
        simpa [Text.has] using equals_mem_write hne
      dsimp only
      rw [if_pos hequals]
  rw [hextras]
  exact ⟨trim_write pairs, readJson_write pairs, sorted_formProperties pairs,
    get?_formProperties pairs⟩

end SchemaMigration
