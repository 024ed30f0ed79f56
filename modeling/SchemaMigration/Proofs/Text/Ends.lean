import Mathlib.Data.List.DropRight
import Mathlib.Data.List.Induction
import SchemaMigration.Text.Basic

/-!
# Ends of texts

What trimming drops from the ends of a text, and what it keeps. Only white space is dropped, so a
text that has something else keeps it, and does not end in white space any more.

## Main definitions

* `Chars.Blank`, `Chars.Visible` — texts of white space, and texts with anything else.
* `Chars.lastVisible` — the last character that is no white space.
-/

namespace SchemaMigration

open Chars

namespace Chars

variable {p : Char → Bool} {sep c : Char} {cs ds : List Char}

/-- Holds for white space. -/
def Blank (cs : List Char) : Prop := ∀ c ∈ cs, isBlank c = true

instance (cs : List Char) : Decidable (Blank cs) := List.decidableBAll _ cs

/-- Holds if a text has a character that is no white space. -/
def Visible (cs : List Char) : Prop := ∃ c ∈ cs, isBlank c = false

/-- The last character that is no white space. -/
def lastVisible (cs : List Char) : Option Char := (cs.filter (!isBlank ·)).getLast?

theorem not_blank_iff : ¬Blank cs ↔ Visible cs := by
  simp [Blank, Visible]

theorem Visible.append_left (h : Visible cs) (ds : List Char) : Visible (cs ++ ds) := by
  obtain ⟨c, hc, hblank⟩ := h
  exact ⟨c, List.mem_append_left ds hc, hblank⟩

theorem Visible.ne_nil (h : Visible cs) : cs ≠ [] := by
  obtain ⟨c, hc, -⟩ := h
  exact List.ne_nil_of_mem hc

/-! ## What is dropped -/

/-- What is dropped from an end has `p` throughout. -/
theorem exists_append_dropEndWhile (p : Char → Bool) (cs : List Char) :
    ∃ ds, cs = dropEndWhile p cs ++ ds ∧ ∀ c ∈ ds, p c = true := by
  refine ⟨cs.rtakeWhile p, List.rdropWhile_append_rtakeWhile.symm, fun c hc => ?_⟩
  exact List.mem_rtakeWhile_imp hc

/-- A text that does not end in `p` is what is left of it and an end in `p`. -/
theorem dropEndWhile_append (hcs : ∀ c ∈ cs.getLast?, p c = false)
    (hds : ∀ c ∈ ds, p c = true) : dropEndWhile p (cs ++ ds) = cs := by
  rw [dropEndWhile_append_of_all hds]
  cases cs using List.reverseRecOn with
  | nil => rfl
  | append_singleton cs c =>
    have hc : p c = false := hcs c (by simp)
    rw [dropEndWhile_concat, hc, if_neg Bool.false_ne_true]

theorem mem_dropEndWhile (hc : c ∈ cs) (hp : p c = false) : c ∈ dropEndWhile p cs := by
  obtain ⟨ds, heq, hds⟩ := exists_append_dropEndWhile p cs
  grind

theorem trimEnd_append (hcs : ∀ c ∈ cs.getLast?, isBlank c = false) (hds : Blank ds) :
    trimEnd (cs ++ ds) = cs :=
  dropEndWhile_append hcs hds

theorem trimStart_append_cons {front : List Char} (hfront : Blank front)
    (hc : isBlank c = false) : trimStart (front ++ c :: cs) = c :: cs := by
  rw [trimStart, List.dropWhile_append_of_pos hfront, List.dropWhile_cons_of_neg (by simp [hc])]

/-- Trimming a text between white space leaves the text, if it neither starts nor ends in white
space. -/
theorem trim_between {front tail : List Char} (hne : cs ≠ [])
    (hhead : ∀ c ∈ cs.head?, isBlank c = false) (hlast : ∀ c ∈ cs.getLast?, isBlank c = false)
    (hfront : Blank front) (htail : Blank tail) : trim (front ++ (cs ++ tail)) = cs := by
  obtain ⟨c, rest, rfl⟩ := List.exists_cons_of_ne_nil hne
  rw [trim, List.cons_append, trimStart_append_cons hfront (hhead c rfl), ← List.cons_append,
    trimEnd_append hlast htail]

/-- A text that neither starts nor ends in white space is left as it is. -/
theorem trim_eq_self (hhead : ∀ c ∈ cs.head?, isBlank c = false)
    (hlast : ∀ c ∈ cs.getLast?, isBlank c = false) : trim cs = cs := by
  have hnil : Blank [] := by simp [Blank]
  cases cs with
  | nil => rfl
  | cons c cs => simpa using trim_between (List.cons_ne_nil c cs) hhead hlast hnil hnil

theorem exists_trim_eq (cs : List Char) :
    ∃ front tail, cs = front ++ (trim cs ++ tail) ∧ Blank front ∧ Blank tail := by
  obtain ⟨tail, htail, hblank⟩ := exists_append_dropEndWhile isBlank (trimStart cs)
  refine ⟨cs.takeWhile isBlank, tail, ?_, List.all_eq_true.1 List.all_takeWhile, hblank⟩
  rw [trim, trimEnd, ← htail, trimStart, List.takeWhile_append_dropWhile]

/-- Trimming keeps what is no white space. -/
theorem mem_trim (hc : c ∈ cs) (hblank : isBlank c = false) : c ∈ trim cs := by
  obtain ⟨front, tail, heq, hfront, htail⟩ := exists_trim_eq cs
  unfold Blank at hfront htail
  grind

/-- A text keeps all from a character on that is no white space when it is trimmed. -/
theorem exists_trim_append_cons (hc : isBlank c = false) (front rest : List Char) :
    ∃ front', trim (front ++ c :: rest) = trimEnd (front' ++ c :: rest) := by
  induction front with
  | nil => exact ⟨[], by simp [trim, trimStart, hc]⟩
  | cons d front ih =>
    by_cases hd : isBlank d = true
    · obtain ⟨front', h⟩ := ih
      exact ⟨front', by simpa [trim, trimStart, hd] using h⟩
    · exact ⟨d :: front, by simp [trim, trimStart, hd]⟩

/-! ## What is left -/

theorem getLast?_trim (cs : List Char) : ∀ c ∈ (trim cs).getLast?, isBlank c = false :=
  getLast?_dropEndWhile isBlank _

/-- Nothing is left of white space, and of nothing else. -/
theorem trim_eq_nil_iff : trim cs = [] ↔ Blank cs := by
  obtain ⟨front, tail, heq, hfront, htail⟩ := exists_trim_eq cs
  constructor
  · intro h c hc
    rw [heq, h, List.nil_append] at hc
    exact (List.mem_append.1 hc).elim (hfront c) (htail c)
  · intro h
    have hstart : trimStart cs = [] := List.dropWhile_eq_nil_iff.2 h
    rw [trim, hstart, trimEnd, dropEndWhile_nil]

/-- A text ends as the last of its parts does, if that is not empty. -/
theorem forall_getLast?_append {P : Char → Prop} (hne : ds ≠ []) (h : ∀ c ∈ ds, P c) :
    ∀ c ∈ (cs ++ ds).getLast?, P c := by
  intro c hc
  rw [List.getLast?_append_of_ne_nil _ hne] at hc
  exact h c (List.mem_of_getLast? hc)

/-! ## The last visible character -/

@[simp] theorem lastVisible_append (cs ds : List Char) :
    lastVisible (cs ++ ds) = (lastVisible ds).or (lastVisible cs) := by
  simp [lastVisible, List.getLast?_append]

theorem lastVisible_concat (hc : isBlank c = false) (cs : List Char) :
    lastVisible (cs ++ [c]) = some c := by
  simp [lastVisible, hc]

theorem lastVisible_of_blank (h : Blank cs) : lastVisible cs = none := by
  simpa [lastVisible, Blank] using h

theorem mem_of_lastVisible (h : lastVisible cs = some c) : c ∈ cs ∧ isBlank c = false := by
  simpa using List.mem_filter.1 (List.mem_of_getLast? h)

theorem lastVisible_trim (cs : List Char) : lastVisible (trim cs) = lastVisible cs := by
  obtain ⟨front, tail, heq, hfront, htail⟩ := exists_trim_eq cs
  conv_rhs => rw [heq, lastVisible_append, lastVisible_append, lastVisible_of_blank hfront,
    lastVisible_of_blank htail, Option.or_none, Option.none_or]

/-- A text that does not end in white space ends in a visible character. -/
theorem getLast?_eq_lastVisible (h : ∀ c ∈ cs.getLast?, isBlank c = false) :
    cs.getLast? = lastVisible cs := by
  cases cs using List.reverseRecOn with
  | nil => rfl
  | append_singleton cs c =>
    rw [List.getLast?_concat, lastVisible_concat (h c (by simp))]

/-- White space behind separators does not count. -/
theorem lastVisible_append_cons (hsep : isBlank sep = false) (front : List Char)
    (h : ∀ c ∈ cs, isBlank c = true ∨ c = sep) : lastVisible (front ++ sep :: cs) = some sep := by
  rw [List.append_cons, lastVisible_append, lastVisible_concat hsep]
  cases hcs : lastVisible cs with
  | none => rfl
  | some c =>
    obtain ⟨hmem, hvisible⟩ := mem_of_lastVisible hcs
    obtain hblank | rfl := h c hmem
    · simp [hvisible] at hblank
    · rfl

end Chars

namespace Text

theorem trim_ne_empty_iff {s : String} : trim s ≠ "" ↔ Visible s.toList := by
  rw [ne_eq, ← String.toList_eq_nil_iff, toList_trim, trim_eq_nil_iff, not_blank_iff]

end Text

end SchemaMigration
