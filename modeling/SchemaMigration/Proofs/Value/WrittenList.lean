import SchemaMigration.ItemList
import SchemaMigration.Proofs.Json.ReadBack
import SchemaMigration.Proofs.Text.Ends
import SchemaMigration.Proofs.Value.Contents

/-!
# Lists written as JSON

A list of keyed tables may also come as its JSON text. A list that holds a map has brackets around
its text and braces in it, so that it is read as JSON, and what is read is the list.

The main result is `ItemList.parse_jsonText`.
-/

namespace SchemaMigration

namespace Value

/-- The document of a value without numbers, whose maps have their keys in order. -/
theorem plain_toJson {n : Nat} {v : Value} (hnumber : ∀ x, ¬v.Holds (.number x))
    (hsorted : ∀ fields, v.Holds (.map fields) → Dict.Sorted fields) (hnesting : v.nesting ≤ n) :
    Json.Plain n v.toJson := by
  induction n generalizing v with
  | zero =>
    cases v with
    | null => exact .null
    | bool b => exact .bool b
    | number x => exact absurd .self (hnumber x)
    | text s => exact .text s
    | list | map => simp [nesting] at hnesting
  | succ n ih =>
    cases v with
    | null => exact .null
    | bool b => exact .bool b
    | number x => exact absurd .self (hnumber x)
    | text s => exact .text s
    | list items =>
      rw [nesting, Nat.add_le_add_iff_right, itemsNesting_le_iff] at hnesting
      rw [toJson, itemsToJson_eq_map]
      refine .array fun j hj => ?_
      obtain ⟨v, hv, rfl⟩ := List.mem_map.1 hj
      exact ih (fun x h => hnumber x (.item hv h)) (fun fields h => hsorted fields (.item hv h))
        (hnesting v hv)
    | map fields =>
      rw [nesting, Nat.add_le_add_iff_right, fieldsNesting_le_iff] at hnesting
      rw [toJson, fieldsToJson_eq_map]
      refine .object ?_ fun m hm => ?_
      · exact List.pairwise_map.2 (hsorted fields .self)
      · obtain ⟨p, hp, rfl⟩ := List.mem_map.1 hm
        exact ih (fun x h => hnumber x (.field hp h)) (fun fields h => hsorted fields (.field hp h))
          (hnesting p hp)

theorem mem_intercalate_comma {css : List (List Char)} {cs : List Char} {c : Char}
    (hcs : cs ∈ css) (hc : c ∈ cs) : c ∈ [','].intercalate css := by
  cases css with
  | nil => cases hcs
  | cons ds css =>
    rw [Json.intercalate_comma_cons, List.mem_append, List.mem_flatMap]
    rcases List.mem_cons.1 hcs with rfl | hcs
    · exact .inl hc
    · exact .inr ⟨cs, hcs, List.mem_cons_of_mem _ hc⟩

/-- The text of a value has the characters of what the value holds. -/
theorem Holds.chars_subset {v w : Value} (h : v.Holds w) :
    w.toJson.chars ⊆ v.toJson.chars := by
  induction h with
  | self => exact fun c hc => hc
  | @item items v w hv h ih =>
    intro c hc
    rw [toJson, itemsToJson_eq_map, Json.chars_array]
    have hpart : v.toJson.chars ∈ (items.map toJson).map Json.chars :=
      List.mem_map_of_mem (List.mem_map_of_mem hv)
    exact List.mem_cons_of_mem _ (List.mem_append_left _ (mem_intercalate_comma hpart (ih hc)))
  | @field fields w p hp h ih =>
    intro c hc
    rw [toJson, fieldsToJson_eq_map, Json.chars_object]
    have hmember : c ∈ Json.memberText (p.1, p.2.toJson) := by simp [Json.memberText, ih hc]
    refine List.mem_cons_of_mem _ (List.mem_append_left _ ?_)
    exact mem_intercalate_comma (List.mem_map_of_mem (List.mem_map_of_mem hp)) hmember

theorem toList_jsonText (v : Value) : v.jsonText.toList = v.toJson.chars := by
  rw [jsonText, Json.compact, String.toList_ofList]

/-- A value without numbers is read back from its compact text, if its maps have their keys in order
and it is nested no deeper than the reader follows. -/
theorem readJson_jsonText {v : Value} (hnumber : ∀ x, ¬v.Holds (.number x))
    (hsorted : ∀ fields, v.Holds (.map fields) → Dict.Sorted fields)
    (hnesting : v.nesting ≤ Json.maxDepth) : readJson v.jsonText = some v := by
  have hread := Json.read_compact (plain_toJson hnumber hsorted hnesting)
  rw [readJson, jsonText, hread, Option.map_some, ofJson_toJson]

end Value

namespace ItemList

open Chars

variable {items : List Value}

theorem exists_toList_jsonText (items : List Value) :
    ∃ cs, (Value.list items).jsonText.toList = '[' :: (cs ++ [']']) :=
  ⟨_, by rw [Value.toList_jsonText, Value.toJson, Json.chars_array]⟩

theorem getLast?_bracketed (cs : List Char) : ('[' :: (cs ++ [']'])).getLast? = some ']' := by
  rw [← List.cons_append, List.getLast?_concat]

/-- Nothing is trimmed off the text of a list. -/
theorem trim_jsonText (items : List Value) :
    trim (Value.list items).jsonText.toList = (Value.list items).jsonText.toList := by
  obtain ⟨cs, hcs⟩ := exists_toList_jsonText items
  rw [hcs]
  refine trim_eq_self ?_ ?_
  · rintro c ⟨⟩
    decide
  · rw [getLast?_bracketed]
    rintro c ⟨⟩
    decide

/-- The text of a list that holds a map has braces. -/
theorem looksLikePairs_jsonText (hmap : ∃ fields, (Value.list items).Holds (.map fields)) :
    looksLikePairs (Value.list items).jsonText.toList = true := by
  obtain ⟨fields, hholds⟩ := hmap
  obtain ⟨cs, hcs⟩ := exists_toList_jsonText items
  have hbraces (c : Char) (hc : c = '\x7b' ∨ c = '\x7d') :
      c ∈ (Value.list items).jsonText.toList := by
    rw [Value.toList_jsonText]
    refine hholds.chars_subset ?_
    rw [Value.toJson, Json.chars_object]
    rcases hc with rfl | rfl <;> simp
  have hopen := hbraces _ (.inl rfl)
  have hclose := hbraces _ (.inr rfl)
  rw [hcs] at hopen hclose ⊢
  simp [looksLikePairs, getLast?_bracketed, hopen, hclose]

/-- A list that holds a keyed table, but no number, is read alike from its compact JSON text: what
differs is only that a text spelled it. The keys of its maps are in order, as those of maps are. -/
theorem parse_jsonText (hmap : ∃ fields, (Value.list items).Holds (.map fields))
    (hnumber : ∀ x, ¬(Value.list items).Holds (.number x))
    (hsorted : ∀ fields, (Value.list items).Holds (.map fields) → Dict.Sorted fields)
    (hnesting : (Value.list items).nesting ≤ Json.maxDepth) :
    parse (.text (Value.list items).jsonText) =
      { parse (.list items) with fromText := true } := by
  have hread := Value.readJson_jsonText hnumber hsorted hnesting
  have hjson : jsonItems? (trim (Value.list items).jsonText.toList) = some items := by
    rw [trim_jsonText, jsonItems?, if_pos (looksLikePairs_jsonText hmap), String.ofList_toList,
      hread]
  have hne : (trim (Value.list items).jsonText.toList).isEmpty = false := by
    obtain ⟨cs, hcs⟩ := exists_toList_jsonText items
    rw [trim_jsonText, hcs]
    rfl
  simp only [parse, ofText, hne, hjson]
  rfl

/-- Two keyed tables, one of which holds another and a list, between other items. -/
def nestedTables : List Value :=
  [.text "[", .map [("a", .list [.null, .text "\"\\\n\x01é"]), ("b", .map [])], .bool true,
    .map [("", .text "")]]

theorem parse_jsonText_nestedTables :
    (∃ fields, (Value.list nestedTables).Holds (.map fields)) ∧
      (∀ x, ¬(Value.list nestedTables).Holds (.number x)) ∧
      (∀ fields, (Value.list nestedTables).Holds (.map fields) → Dict.Sorted fields) ∧
      (Value.list nestedTables).nesting ≤ Json.maxDepth ∧
      (Value.list nestedTables).jsonText =
        "[\"[\",\x7b\"a\":[null,\"\\\"\\\\\\n\\u0001é\"],\"b\":\x7b\x7d\x7d,true,\x7b\"\":\"\"\x7d]" ∧
      parse (.text (Value.list nestedTables).jsonText) =
        { parse (.list nestedTables) with fromText := true } := by
  have hmap : ∃ fields, (Value.list nestedTables).Holds (.map fields) :=
    ⟨[("", .text "")], .item (by simp [nestedTables]) .self⟩
  have hnumber : ∀ x, ¬(Value.list nestedTables).Holds (.number x) := by
    intro x
    simp [nestedTables, Value.holds_list_iff, Value.holds_map_iff, Value.holds_leaf_iff]
  have hsorted : ∀ fields, (Value.list nestedTables).Holds (.map fields) → Dict.Sorted fields := by
    intro fields h
    have hfields : fields = [("a", .list [.null, .text "\"\\\n\x01é"]), ("b", .map [])] ∨
        fields = [] ∨ fields = [("", .text "")] := by
      simpa [nestedTables, Value.holds_list_iff, Value.holds_map_iff, Value.holds_leaf_iff,
        or_assoc] using h
    unfold Dict.Sorted
    rcases hfields with rfl | rfl | rfl <;> decide +kernel
  have hnesting : (Value.list nestedTables).nesting ≤ Json.maxDepth := by decide
  exact ⟨hmap, hnumber, hsorted, hnesting, by decide +kernel,
    parse_jsonText hmap hnumber hsorted hnesting⟩

end ItemList

end SchemaMigration
