import Mathlib.Data.List.Basic
import SchemaMigration.Migration.Locator
import SchemaMigration.Proofs.FormEncoding.ReadBack
import SchemaMigration.Proofs.Value.Dictionary

/-!
# Texts of locators

A text is a locator if it has the scheme, the mark behind it and a path that is not empty. Whatever
the path has in it, up to the first question mark, it is the path of the locator; and every set of
parameters can be written behind that question mark.

## Main definitions

* `Locator.Spells` — how the text of a locator is made up.

## Main results

* `Locator.parse_eq_ok_iff` — the texts that are read, and what they are read as.
* `Locator.parse_spelled` — which texts those are, and how to write one for a path and parameters.
-/

namespace SchemaMigration

open Chars

namespace Chars

variable {c : Char} {mark front cs before after : List Char}

/-- A mark occurs first where its first character does. -/
theorem cutAt?_append (h : c ∉ front) (rest : List Char) :
    cutAt? (c :: mark) (front ++ (c :: mark ++ rest)) = some (front, rest) := by
  induction front with
  | nil =>
    have hstrip := stripStart?_append (c :: mark) rest
    rw [List.cons_append] at hstrip
    simp only [List.nil_append, List.cons_append, cutAt?, hstrip]
  | cons d front ih =>
    obtain ⟨hne, hfront⟩ := not_or.1 (mt List.mem_cons.2 h)
    have hstrip (ds : List Char) : stripStart? (c :: mark) (d :: ds) = none := by
      simp [stripStart?, hne]
    simp only [List.cons_append, cutAt?, hstrip] at ih ⊢
    rw [ih hfront]
    rfl

theorem eq_append_of_cutAt? (h : cutAt? mark cs = some (before, after)) :
    cs = before ++ (mark ++ after) := by
  induction cs generalizing before with
  | nil =>
    obtain ⟨rest, hstrip, heq⟩ := Option.map_eq_some_iff.1 h
    cases heq
    rw [List.nil_append]
    exact eq_append_of_stripStart? hstrip
  | cons c cs ih =>
    rw [cutAt?] at h
    split at h
    · next hstrip =>
      cases h
      rw [List.nil_append]
      exact eq_append_of_stripStart? hstrip
    · obtain ⟨⟨a, b⟩, hcut, heq⟩ := Option.map_eq_some_iff.1 h
      cases heq
      rw [ih hcut, List.cons_append]

end Chars

namespace Locator

variable {text : String} {l : Locator} {rest path query : List Char}

/-! ## Queries -/

/-- The path is all, or all before the first question mark. -/
theorem splitQuery_eq_iff : splitQuery rest = (path, query) ↔
    '?' ∉ path ∧ (rest = path ∧ query = [] ∨ rest = path ++ '?' :: query) := by
  constructor
  · intro h
    unfold splitQuery at h
    cases hcut : cut? '?' rest with
    | none =>
      rw [hcut] at h
      cases h
      exact ⟨cut?_eq_none_iff.1 hcut, .inl ⟨rfl, rfl⟩⟩
    | some p =>
      rw [hcut] at h
      cases h
      obtain ⟨hrest, hpath⟩ := eq_append_of_cut? hcut
      exact ⟨hpath, .inr hrest⟩
  · rintro ⟨hpath, ⟨rfl, rfl⟩ | rfl⟩
    · exact splitQuery_of_notMem hpath
    · exact splitQuery_append_cons hpath query

/-! ## Reading -/

/-- A scheme in any case has no part of the mark behind it. -/
theorem colon_notMem_scheme {scheme : List Char}
    (h : scheme.map Char.toLower = scriptScheme.toList) : ':' ∉ scheme := by
  intro hmem
  have hcolon := List.mem_map_of_mem (f := Char.toLower) hmem
  rw [h] at hcolon
  revert hcolon
  decide

theorem parse_eq_ok_iff_chars : parse text = .ok l ↔ ∃ scheme rest path query,
    trim text.toList = scheme ++ (schemeMark ++ rest) ∧
      scheme.map Char.toLower = scriptScheme.toList ∧ splitQuery rest = (path, query) ∧
      path ≠ [] ∧ l = ⟨.ofList path, Dict.ofList (FormEncoding.read (.ofList query))⟩ := by
  constructor
  · intro h
    unfold parse at h
    dsimp only at h
    split at h
    · cases h
    split at h
    · cases h
    · next scheme rest hcut =>
      split at h
      · cases h
      next hscheme =>
      obtain ⟨path, query, hsplit⟩ : ∃ path query, splitQuery rest = (path, query) :=
        ⟨_, _, rfl⟩
      rw [hsplit] at h
      dsimp only at h
      split at h
      · cases h
      next hpath =>
      cases h
      have htext := eq_append_of_cutAt? hcut
      rw [Text.toList_trim] at htext
      exact ⟨scheme, rest, path, query, htext, not_not.1 hscheme, hsplit,
        by simpa using hpath, rfl⟩
  · rintro ⟨scheme, rest, path, query, htext, hscheme, hsplit, hpath, rfl⟩
    have hcut : cutAt? schemeMark (trim text.toList) = some (scheme, rest) := by
      rw [htext]
      exact cutAt?_append (colon_notMem_scheme hscheme) rest
    have hempty : (Text.trim text).isEmpty = false := by
      rw [String.isEmpty_eq_false_iff, ne_eq, ← String.toList_eq_nil_iff, Text.toList_trim, htext]
      simp [schemeMark]
    simp [parse, hempty, hcut, hscheme, hsplit, hpath]

/-- How the text of a locator is made up: the scheme in any case, the mark, and a path that is not
empty and has no question mark. A question mark behind it starts the query. -/
inductive Spells (text : String) : Locator → Prop
  | path {scheme path : String} (htext : Text.trim text = scheme ++ "://" ++ path)
      (hscheme : Text.lower scheme = "lua") (hne : path ≠ "") (hpath : '?' ∉ path.toList) :
      Spells text ⟨path, []⟩
  | query {scheme path query : String}
      (htext : Text.trim text = scheme ++ "://" ++ path ++ "?" ++ query)
      (hscheme : Text.lower scheme = "lua") (hne : path ≠ "") (hpath : '?' ∉ path.toList) :
      Spells text ⟨path, .ofList (FormEncoding.read query)⟩

/-- The texts that are locators, and what each of them is read as. -/
theorem parse_eq_ok_iff : parse text = .ok l ↔ Spells text l := by
  rw [parse_eq_ok_iff_chars]
  constructor
  · rintro ⟨scheme, rest, path, query, htext, hscheme, hsplit, hpath, rfl⟩
    have hlower : Text.lower (.ofList scheme) = "lua" := by
      rw [Text.lower, String.toList_ofList, hscheme]
      rfl
    have hne : String.ofList path ≠ "" := by simpa [← String.toList_inj] using hpath
    obtain ⟨hmark, hrest⟩ := splitQuery_eq_iff.1 hsplit
    have hmark' : '?' ∉ (String.ofList path).toList := by rwa [String.toList_ofList]
    rcases hrest with ⟨rfl, rfl⟩ | rfl
    · refine @Spells.path _ (.ofList scheme) _ ?_ hlower hne hmark'
      simp [← String.toList_inj, htext, schemeMark]
    · refine @Spells.query _ (.ofList scheme) _ _ ?_ hlower hne hmark'
      simp [← String.toList_inj, htext, schemeMark]
  · intro h
    have hscheme' {scheme : String} (h : Text.lower scheme = "lua") :
        scheme.toList.map Char.toLower = scriptScheme.toList := by
      rw [← Text.toList_lower, h]
      rfl
    cases h with
    | @path scheme path htext hscheme hne hpath =>
      refine ⟨scheme.toList, path.toList, path.toList, [], ?_, hscheme' hscheme,
        splitQuery_of_notMem hpath, mt String.toList_eq_nil_iff.1 hne, ?_⟩
      · simpa [schemeMark] using congrArg String.toList htext
      · rw [String.ofList_toList]
        rfl
    | @query scheme path query htext hscheme hne hpath =>
      refine ⟨scheme.toList, path.toList ++ '?' :: query.toList, path.toList, query.toList, ?_,
        hscheme' hscheme, splitQuery_append_cons hpath _, mt String.toList_eq_nil_iff.1 hne, ?_⟩
      · simpa [schemeMark] using congrArg String.toList htext
      · rw [String.ofList_toList, String.ofList_toList]

/-! ## Writing -/

/-- A text that starts with the scheme and does not end in white space is left as it is. -/
theorem trim_scheme {rest : String} (hne : rest ≠ "")
    (h : ∀ c ∈ rest.toList.getLast?, isBlank c = false) :
    Text.trim ("lua://" ++ rest) = "lua://" ++ rest := by
  have hhead : ∀ c ∈ ("lua://" ++ rest).toList.head?, isBlank c = false := by
    intro c hc
    obtain rfl : 'l' = c := by simpa using hc
    decide
  have hlast : ∀ c ∈ ("lua://" ++ rest).toList.getLast?, isBlank c = false := by
    intro c hc
    rw [String.toList_append,
      List.getLast?_append_of_ne_nil _ (mt String.toList_eq_nil_iff.1 hne)] at hc
    exact h c hc
  rw [Text.trim, trim_eq_self hhead hlast, String.ofList_toList]

/-- A text is a locator if and only if it is spelled like one. The path of a locator can be any text
that is not empty and has no question mark, and its query any set of parameters, written in any
order. Only a path without a query must not end in white space. -/
theorem parse_spelled :
    (∀ text l, parse text = .ok l ↔ Spells text l) ∧
      ∀ path : String, path ≠ "" → '?' ∉ path.toList →
        ((∀ c ∈ path.toList.getLast?, isBlank c = false) →
          parse ("lua://" ++ path) = .ok ⟨path, []⟩) ∧
        ∀ (query : Dict String) (pairs : List (String × String)), query.Sorted → pairs.Perm query →
          parse ("lua://" ++ path ++ "?" ++ FormEncoding.write pairs) = .ok ⟨path, query⟩ := by
  refine ⟨fun text l => parse_eq_ok_iff, fun path hne hpath => ⟨fun hlast => ?_, ?_⟩⟩
  · have htext : Text.trim ("lua://" ++ path) = "lua" ++ "://" ++ path := by
      rw [trim_scheme hne hlast]
      rfl
    exact parse_eq_ok_iff.2 (.path htext (by decide) hne hpath)
  · intro query pairs hsorted hperm
    have hlast : ∀ c ∈ (path ++ "?" ++ FormEncoding.write pairs).toList.getLast?,
        isBlank c = false := by
      rw [String.append_assoc, String.toList_append]
      refine forall_getLast?_append (by simp) fun c hc => ?_
      obtain rfl | hc := List.mem_cons.1 (by simpa using hc)
      · decide
      · exact FormEncoding.isBlank_of_mem_write hc
    have htext : Text.trim ("lua://" ++ path ++ "?" ++ FormEncoding.write pairs) =
        "lua" ++ "://" ++ path ++ "?" ++ FormEncoding.write pairs := by
      have htrim := trim_scheme (by simp) hlast
      rwa [← String.append_assoc, ← String.append_assoc] at htrim
    have hparse := parse_eq_ok_iff.2 (.query htext (by decide) hne hpath)
    rwa [FormEncoding.read_write, Dict.ofList_eq_of_perm hsorted hperm] at hparse

/-- A path with the characters that have a meaning elsewhere, and parameters that need escapes. -/
theorem parse_spelled_markedPath :
    let path := " a://b%41&c=d"
    let query := [("a", "?&="), ("vm", "x y")]
    path ≠ "" ∧ '?' ∉ path.toList ∧ (∀ c ∈ path.toList.getLast?, isBlank c = false) ∧
      Dict.Sorted query ∧ parse ("lua://" ++ path) = .ok ⟨path, []⟩ ∧
      parse "lua:// a://b%41&c=d?vm=x+y&a=%3F%26%3D" = .ok ⟨path, query⟩ ∧
      Spells "\tLuA://m?vm=1\n" ⟨"m", [("vm", "1")]⟩ := by
  intro path query
  have hne : path ≠ "" := by decide
  have hpath : '?' ∉ path.toList := by decide
  have hlast : ∀ c ∈ path.toList.getLast?, isBlank c = false := by
    intro c hc
    obtain rfl : 'd' = c := by simpa [path] using hc
    decide
  have hsorted : Dict.Sorted query := by
    unfold Dict.Sorted
    decide
  have hwritten : "lua:// a://b%41&c=d?vm=x+y&a=%3F%26%3D" =
      "lua://" ++ path ++ "?" ++ FormEncoding.write [("vm", "x y"), ("a", "?&=")] := by
    decide +kernel
  have hspelled := parse_spelled.2 path hne hpath
  refine ⟨hne, hpath, hlast, hsorted, hspelled.1 hlast, ?_, ?_⟩
  · rw [hwritten]
    exact hspelled.2 query _ hsorted (.swap _ _ _)
  · exact (parse_spelled.1 _ _).1 (by decide +kernel)

end Locator

end SchemaMigration
