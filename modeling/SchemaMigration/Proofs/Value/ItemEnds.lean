import Mathlib.Data.List.Forall2
import SchemaMigration.Proofs.Value.Literal
import SchemaMigration.Proofs.Value.NameList

/-!
# The ends of items

The items of a text are its parts between commas, each without the quotes around it. White space and
empty parts are dropped before the quotes are. So no item starts or ends in a quote, but what stands
inside quotes, and next to a bracket, stays: an item is empty where quotes had nothing between them,
and starts or ends in white space where that stood there.

## Main definitions

* `ItemList.Parts` — the parts of a text between separators.
* `ItemList.Stripped` — what is left of a part without quotes.
* `ItemList.OpensBlank`, `ItemList.ClosesBlank` — parts with white space next to the quotes at an
  end.

The main result is `ItemList.untidy_items_iff`.
-/

namespace SchemaMigration.ItemList

open Chars

/-! ## Parts -/

/-- The parts of a text between separators. A separator is a comma with all the white space around
it. -/
inductive Parts : List Char → List (List Char) → Prop
  | last {part} (hcomma : ',' ∉ part) : Parts part [part]
  | cons {part front back rest parts} (hcomma : ',' ∉ part)
      (hlast : ∀ c ∈ part.getLast?, isBlank c = false) (hfront : Blank front) (hback : Blank back)
      (hhead : ∀ c ∈ rest.head?, isBlank c = false) (hrest : Parts rest parts) :
      Parts (part ++ front ++ ',' :: (back ++ rest)) (part :: parts)

section Parts

variable {cs before after back : List Char} {parts : List (List Char)}

theorem head?_trimStart (cs : List Char) : ∀ c ∈ (trimStart cs).head?, isBlank c = false := by
  intro c hc
  have hnot := List.head?_dropWhile_not isBlank cs
  simp_all [trimStart]

/-- The first comma ends the first part, and the white space around it is in no part. -/
theorem Parts.of_comma (hcomma : ',' ∉ before) (h : Parts (trimStart after) parts) :
    Parts (before ++ ',' :: after) (trimEnd before :: parts) := by
  obtain ⟨front, heq, hfront⟩ := exists_append_dropEndWhile isBlank before
  have hpart : ',' ∉ trimEnd before := fun hmem =>
    hcomma (by rw [heq]; exact List.mem_append_left _ hmem)
  have hback : Blank (after.takeWhile isBlank) := List.all_eq_true.1 List.all_takeWhile
  have hcons := Parts.cons hpart (getLast?_dropEndWhile isBlank before) hfront hback
    (head?_trimStart after) h
  have hafter : after.takeWhile isBlank ++ trimStart after = after :=
    List.takeWhile_append_dropWhile
  have hbefore : trimEnd before ++ front = before := heq.symm
  rwa [hafter, hbefore] at hcons

theorem trimStart_append_comma (before after : List Char) :
    trimStart (before ++ ',' :: after) = trimStart before ++ ',' :: after := by
  induction before with
  | nil => rfl
  | cons c before ih =>
    by_cases hc : isBlank c = true
    · simpa [trimStart, hc] using ih
    · simp [trimStart, hc]

theorem parts_afterComma (cs : List Char) :
    Parts (trimStart cs) (afterComma (splitOn ',' cs)) := by
  have hstart {ds : List Char} (h : ',' ∉ ds) : ',' ∉ trimStart ds := fun hmem =>
    h (List.dropWhile_sublist isBlank |>.mem hmem)
  cases hcut : cut? ',' cs with
  | none =>
    have hcomma : ',' ∉ cs := cut?_eq_none_iff.1 hcut
    rw [splitOn_of_notMem hcomma]
    exact .last (hstart hcomma)
  | some p =>
    obtain ⟨before, after⟩ := p
    obtain ⟨rfl, hcomma⟩ := eq_append_of_cut? hcut
    rw [splitOn_append_cons hcomma, afterComma_cons _ (splitOn_ne_nil _ _), trimStart_append_comma]
    exact (parts_afterComma after).of_comma (hstart hcomma)
termination_by cs.length

theorem parts_pieces (cs : List Char) : Parts cs (pieces cs) := by
  cases hcut : cut? ',' cs with
  | none =>
    have hcomma : ',' ∉ cs := cut?_eq_none_iff.1 hcut
    rw [pieces, splitOn_of_notMem hcomma]
    exact .last hcomma
  | some p =>
    obtain ⟨before, after⟩ := p
    obtain ⟨rfl, hcomma⟩ := eq_append_of_cut? hcut
    obtain ⟨piece, others, hpieces⟩ := List.exists_cons_of_ne_nil (splitOn_ne_nil ',' after)
    have hrest := parts_afterComma after
    rw [pieces, splitOn_append_cons hcomma, hpieces]
    rw [hpieces] at hrest
    exact hrest.of_comma hcomma

theorem trimStart_append (hback : Blank back) (hhead : ∀ c ∈ cs.head?, isBlank c = false) :
    trimStart (back ++ cs) = cs := by
  cases cs with
  | nil => rw [List.append_nil, trimStart, List.dropWhile_eq_nil_iff.2 hback]
  | cons c cs => exact trimStart_append_cons hback (hhead c rfl)

/-- After a comma the parts are found whatever white space is in front of them. -/
theorem Parts.afterComma_eq (h : Parts cs parts) (hback : Blank back)
    (hhead : ∀ c ∈ cs.head?, isBlank c = false) :
    afterComma (splitOn ',' (back ++ cs)) = parts := by
  induction h generalizing back with
  | last hcomma =>
    have hnot : ',' ∉ back ++ _ := List.not_mem_append (comma_notMem_of_blank hback) hcomma
    rw [splitOn_of_notMem hnot, afterComma, trimStart_append hback hhead]
  | @cons part front back' rest parts hcomma hlast hfront hback' hhead' _ ih =>
    have hnot : ',' ∉ back ++ (part ++ front) := by
      simp [comma_notMem_of_blank hback, hcomma, comma_notMem_of_blank hfront]
    have hpart : trim (back ++ (part ++ front)) = part := by
      cases part with
      | nil =>
        rw [trim_eq_nil_iff]
        exact fun c hc => (List.mem_append.1 hc).elim (hback c) (hfront c)
      | cons c part =>
        exact trim_between (List.cons_ne_nil _ _) (by simpa using hhead) hlast hback hfront
    rw [← List.append_assoc, splitOn_append_cons (by simpa using hnot),
      afterComma_cons _ (splitOn_ne_nil _ _), ih hback' hhead', hpart]

/-- A text has one list of parts. -/
theorem parts_iff : Parts cs parts ↔ parts = pieces cs := by
  refine ⟨fun h => ?_, fun h => h ▸ parts_pieces cs⟩
  cases h with
  | last hcomma => rw [pieces, splitOn_of_notMem hcomma]
  | @cons part front back rest parts hcomma hlast hfront hback hhead hrest =>
    have hnot : ',' ∉ part ++ front := by simp [hcomma, comma_notMem_of_blank hfront]
    obtain ⟨piece, others, hpieces⟩ :=
      List.exists_cons_of_ne_nil (splitOn_ne_nil ',' (back ++ rest))
    have hafter := hrest.afterComma_eq hback hhead
    rw [hpieces] at hafter
    rw [pieces, splitOn_append_cons hnot, hpieces]
    simp only [hafter, trimEnd_append hlast hfront]

end Parts

/-! ## Quotes around a part -/

/-- Holds for quotes of either kind. -/
def Quotes (cs : List Char) : Prop := ∀ c ∈ cs, isQuote c = true

/-- What is left of a part without the quotes around it. -/
structure Stripped (part item : List Char) : Prop where
  around : ∃ front tail, part = front ++ (item ++ tail) ∧ Quotes front ∧ Quotes tail
  head : ∀ c ∈ item.head?, isQuote c = false
  last : ∀ c ∈ item.getLast?, isQuote c = false

/-- Holds if white space follows the quotes at the start. There may be none of these. -/
def OpensBlank (part : List Char) : Prop :=
  ∃ front c rest, part = front ++ c :: rest ∧ Quotes front ∧ isBlank c = true

/-- Holds if white space precedes the quotes at the end. There may be none of these. -/
def ClosesBlank (part : List Char) : Prop :=
  ∃ rest c tail, part = rest ++ c :: tail ∧ Quotes tail ∧ isBlank c = true

theorem isQuote_eq_false_of_isBlank {c : Char} (h : isBlank c = true) : isQuote c = false := by
  rw [Bool.eq_false_iff]
  intro hquote
  simp only [isQuote, Bool.or_eq_true, beq_iff_eq] at hquote
  rcases hquote with rfl | rfl <;> exact absurd h (by decide)

theorem stripped_stripQuotes (part : List Char) : Stripped part (stripQuotes part) := by
  obtain ⟨tail, htail, hquotes⟩ := exists_append_dropEndWhile isQuote (part.dropWhile isQuote)
  refine ⟨⟨part.takeWhile isQuote, tail, ?_, List.all_eq_true.1 List.all_takeWhile, hquotes⟩,
    fun c hc => ?_, getLast?_dropEndWhile isQuote _⟩
  · rw [stripQuotes, ← htail, List.takeWhile_append_dropWhile]
  · have hhead : (part.dropWhile isQuote).head? = some c := by
      rw [htail, List.head?_append, show (dropEndWhile isQuote _).head? = some c from hc]
      rfl
    have hnot := List.head?_dropWhile_not isQuote part
    simpa [hhead] using hnot

namespace Stripped

variable {part item : List Char}

theorem reverse (h : Stripped part item) : Stripped part.reverse item.reverse := by
  obtain ⟨⟨front, tail, rfl, hfront, htail⟩, hhead, hlast⟩ := h
  refine ⟨⟨tail.reverse, front.reverse, by simp, ?_, ?_⟩, by simpa using hlast,
    by simpa using hhead⟩
  · exact fun c hc => htail c (List.mem_reverse.1 hc)
  · exact fun c hc => hfront c (List.mem_reverse.1 hc)

/-- Nothing is left of quotes, and of nothing else. -/
theorem eq_nil_iff (h : Stripped part item) : item = [] ↔ Quotes part := by
  obtain ⟨⟨front, tail, rfl, hfront, htail⟩, hhead, -⟩ := h
  constructor
  · rintro rfl
    exact fun c hc => (List.mem_append.1 hc).elim (hfront c) (htail c)
  · intro hquotes
    cases item with
    | nil => rfl
    | cons c item =>
      have hc : isQuote c = true := hquotes c (by simp)
      simp [hhead c rfl] at hc

theorem opensBlank_iff (h : Stripped part item) :
    (∃ c ∈ item.head?, isBlank c = true) ↔ OpensBlank part := by
  obtain ⟨⟨front, tail, rfl, hfront, htail⟩, hhead, -⟩ := h
  constructor
  · rintro ⟨c, hc, hblank⟩
    obtain ⟨item, rfl⟩ := List.head?_eq_some_iff.1 hc
    exact ⟨front, c, item ++ tail, by simp, hfront, hblank⟩
  · rintro ⟨quotes, c, rest, heq, hquotes, hblank⟩
    -- dropping the quotes at the start of both sides leaves the item and the white space
    have hdrop := congrArg (List.dropWhile isQuote) heq
    rw [List.dropWhile_append_of_pos hfront, List.dropWhile_append_of_pos hquotes,
      List.dropWhile_cons_of_neg (by simp [isQuote_eq_false_of_isBlank hblank])] at hdrop
    cases item with
    | nil =>
      rw [List.nil_append, List.dropWhile_eq_nil_iff.2 htail] at hdrop
      cases hdrop
    | cons d item =>
      rw [List.cons_append, List.dropWhile_cons_of_neg (by simp [hhead d rfl])] at hdrop
      obtain ⟨rfl, -⟩ := List.cons.inj hdrop
      exact ⟨d, rfl, hblank⟩

theorem closesBlank_iff (h : Stripped part item) :
    (∃ c ∈ item.getLast?, isBlank c = true) ↔ ClosesBlank part := by
  have hreverse := h.reverse.opensBlank_iff
  rw [List.head?_reverse] at hreverse
  rw [hreverse]
  constructor
  · rintro ⟨front, c, rest, heq, hfront, hblank⟩
    refine ⟨rest.reverse, c, front.reverse, ?_, fun d hd => hfront d (List.mem_reverse.1 hd),
      hblank⟩
    rw [← List.reverse_reverse part, heq]
    simp
  · rintro ⟨rest, c, tail, rfl, htail, hblank⟩
    exact ⟨tail.reverse, c, rest.reverse, by simp, fun d hd => htail d (List.mem_reverse.1 hd),
      hblank⟩

end Stripped

/-! ## Items -/

/-- A text without white space at its ends, brackets, and parentheses around several names. -/
def inner (s : String) : List Char := stripParentheses (stripBrackets (trim s.toList))

theorem items_ofText {s : String} (h : jsonItems? (trim s.toList) = none) :
    (ofText s).items =
      ((pieces (inner s)).filter (!·.isEmpty)).map fun part => .ofList (stripQuotes part) := by
  have hnames : (ofText s).items = (names (trim s.toList)).map .ofList := by
    cases hs : trim s.toList with
    | nil =>
      simp [ofText, hs, names, stripBrackets, between?, stripStart?, stripParentheses, pieces,
        splitOn]
    | cons c cs =>
      rw [hs] at h
      simp [ofText, hs, h]
  rw [hnames, names, List.map_map]
  rfl

theorem mem_items_ofText {s item : String} (h : jsonItems? (trim s.toList) = none) :
    item ∈ (ofText s).items ↔
      ∃ part ∈ pieces (inner s), part ≠ [] ∧ .ofList (stripQuotes part) = item := by
  simp [items_ofText h, and_assoc]

/-- Items have what the parts that they are left of show. -/
theorem exists_item_iff {s : String} (h : jsonItems? (trim s.toList) = none)
    {P Q : List Char → Prop} (hstripped : ∀ part, P (stripQuotes part) ↔ Q part) (hnil : ¬Q []) :
    (∃ item ∈ (ofText s).items, P item.toList) ↔ ∃ part ∈ pieces (inner s), Q part := by
  constructor
  · rintro ⟨item, hitem, hP⟩
    obtain ⟨part, hpart, -, rfl⟩ := (mem_items_ofText h).1 hitem
    rw [String.toList_ofList] at hP
    exact ⟨part, hpart, (hstripped part).1 hP⟩
  · rintro ⟨part, hpart, hQ⟩
    have hne : part ≠ [] := fun he => hnil (he ▸ hQ)
    refine ⟨_, (mem_items_ofText h).2 ⟨part, hpart, hne, rfl⟩, ?_⟩
    rw [String.toList_ofList]
    exact (hstripped part).2 hQ

/-- The items of a list are not empty. -/
theorem empty_notMem_items_ofValues (vs : List Value) : "" ∉ (ofValues vs).items := by
  intro h
  obtain ⟨v, -, hv⟩ := List.mem_filterMap.1 h
  cases v with
  | null | map => cases hv
  | bool | number | text | list =>
    simp only [itemOf?] at hv
    split at hv
    · cases hv
    · next hne => exact hne (by simp [Option.some.inj hv])

theorem empty_mem_items_iff (v : Value) :
    "" ∈ (parse v).items ↔
      ∃ s parts, v = .text s ∧ jsonItems? (trim s.toList) = none ∧ Parts (inner s) parts ∧
        ∃ part ∈ parts, part ≠ [] ∧ Quotes part := by
  cases v with
  | null | map => simp [parse]
  | bool b => cases b <;> simp [parse, Value.asText]
  | number x => simp [parse, Value.asText, (Value.numberText_ne_empty x).symm]
  | list items => simpa [parse] using empty_notMem_items_ofValues items
  | text s =>
    cases hjson : jsonItems? (trim s.toList) with
    | some items =>
      have hne : (trim s.toList).isEmpty = false := by
        cases hs : trim s.toList with
        | nil => simp [hs, jsonItems?, looksLikePairs] at hjson
        | cons => rfl
      simpa [parse, ofText, hne, hjson] using empty_notMem_items_ofValues items
    | none =>
      have hempty (part : List Char) : String.ofList (stripQuotes part) = "" ↔ Quotes part := by
        rw [← (stripped_stripQuotes part).eq_nil_iff, String.ofList_eq_empty_iff]
      simp only [parse, mem_items_ofText hjson, hempty, parts_iff, Value.text.injEq]
      grind

/-- Exactly these items are untidy. An item is empty if and only if it is of a text that is no JSON
array of objects, where it is a part that has quotes but nothing else. The items of such a text are
its parts that are not empty, each without the quotes around it. None starts or ends in a quote, and
some item starts or ends in white space if and only if in some part white space stands next to the
quotes there. -/
theorem untidy_items_iff (v : Value) :
    ("" ∈ (parse v).items ↔
      ∃ s parts, v = .text s ∧ jsonItems? (trim s.toList) = none ∧ Parts (inner s) parts ∧
        ∃ part ∈ parts, part ≠ [] ∧ Quotes part) ∧
    ∀ s, v = .text s → jsonItems? (trim s.toList) = none → ∃ parts, Parts (inner s) parts ∧
      List.Forall₂ (fun part item => Stripped part item.toList) (parts.filter (!·.isEmpty))
        (parse v).items ∧
      (∀ item ∈ (parse v).items, (∀ c ∈ item.toList.head?, isQuote c = false) ∧
        ∀ c ∈ item.toList.getLast?, isQuote c = false) ∧
      ((∃ item ∈ (parse v).items, ∃ c ∈ item.toList.head?, isBlank c = true) ↔
        ∃ part ∈ parts, OpensBlank part) ∧
      ((∃ item ∈ (parse v).items, ∃ c ∈ item.toList.getLast?, isBlank c = true) ↔
        ∃ part ∈ parts, ClosesBlank part) := by
  refine ⟨empty_mem_items_iff v, ?_⟩
  rintro s rfl hjson
  refine ⟨pieces (inner s), parts_pieces _, ?_, fun item hitem => ?_, ?_, ?_⟩
  · rw [parse, items_ofText hjson, List.forall₂_map_right_iff, List.forall₂_same]
    intro part _
    rw [String.toList_ofList]
    exact stripped_stripQuotes part
  · obtain ⟨part, -, -, rfl⟩ := (mem_items_ofText hjson).1 hitem
    rw [String.toList_ofList]
    exact ⟨(stripped_stripQuotes part).head, (stripped_stripQuotes part).last⟩
  · exact exists_item_iff (P := fun cs => ∃ c ∈ cs.head?, isBlank c = true) hjson
      (fun part => (stripped_stripQuotes part).opensBlank_iff) (by simp [OpensBlank])
  · exact exists_item_iff (P := fun cs => ∃ c ∈ cs.getLast?, isBlank c = true) hjson
      (fun part => (stripped_stripQuotes part).closesBlank_iff) (by simp [ClosesBlank])

/-- A name next to white space at a bracket keeps the white space and the quote before it, and
quotes with nothing between them leave an empty item. -/
theorem untidy_items_bracketedNames :
    jsonItems? (trim "['', 'a' ]".toList) = none ∧
      (parse (.text "['', 'a' ]")).items = ["", "a' "] ∧
      ∃ parts, Parts (inner "['', 'a' ]") parts ∧ (∃ part ∈ parts, part ≠ [] ∧ Quotes part) ∧
        ∃ part ∈ parts, ClosesBlank part := by
  have hjson : jsonItems? (trim "['', 'a' ]".toList) = none := by decide +kernel
  have hitems : (parse (.text "['', 'a' ]")).items = ["", "a' "] := by decide +kernel
  obtain ⟨hempty, hends⟩ := untidy_items_iff (.text "['', 'a' ]")
  obtain ⟨parts, hparts, -, -, -, hcloses⟩ := hends _ rfl hjson
  obtain ⟨s, parts', hs, -, hparts', hquotes⟩ := hempty.1 (by simp [hitems])
  cases hs
  obtain rfl : parts = parts' := (parts_iff.1 hparts).trans (parts_iff.1 hparts').symm
  have hblank : ∃ c ∈ "a' ".toList.getLast?, isBlank c = true := ⟨' ', by decide, by decide⟩
  exact ⟨hjson, hitems, parts, hparts, hquotes, hcloses.1 ⟨_, by simp [hitems], hblank⟩⟩

/-- An item can be empty, and an item of a text that is no JSON array of objects can end in white
space. -/
theorem untidy_items_of_bracketedNames :
    (¬∀ v, "" ∉ (parse v).items) ∧
      ¬∀ s, jsonItems? (trim s.toList) = none → ∀ item ∈ (parse (.text s)).items,
        ∀ c ∈ item.toList.getLast?, isBlank c = false := by
  have hitems : (parse (.text "['', 'a' ]")).items = ["", "a' "] := by decide +kernel
  constructor
  · intro h
    exact h (.text "['', 'a' ]") (by simp [hitems])
  · intro h
    have hblank := h "['', 'a' ]" (by decide +kernel) "a' " (by simp [hitems]) ' ' (by simp)
    exact absurd hblank (by decide)

end SchemaMigration.ItemList
