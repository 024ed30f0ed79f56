import SchemaMigration.Identifier

/-!
# Templates of names

A template has a name in double braces, perhaps with a percent sign at either end of it. The percent
signs stand for texts that the options give. These texts are put in as they are: the text before a
name may end in a percent sign and either may hold braces, and nothing of it is read again.

## Main definitions

* `NameTemplate` — a name that has no percent sign at its ends, and the signs around it.
* `NameTemplate.text`, `NameTemplate.filled` — the template as it is written, and the name it gives.
* `Quoter.Quotes` — how a safe name is quoted.

The main result is `Quoter.quotes_template`.
-/

namespace SchemaMigration

open Chars

/-- A name in a template. It may hold anything, but has no percent sign at its ends: these would be
signs of the template. -/
structure NameTemplate where
  /-- Holds if there is a percent sign before the name. -/
  leading : Bool
  name : List Char
  /-- Holds if there is a percent sign after the name. -/
  trailing : Bool
  name_ne_nil : name ≠ []
  head_ne : name.head? ≠ some '%'
  last_ne : name.getLast? ≠ some '%'

namespace NameTemplate

variable (t : NameTemplate) (before after : List Char)

/-- The name with its signs. -/
def body : List Char :=
  (if t.leading then ['%'] else []) ++ t.name ++ (if t.trailing then ['%'] else [])

/-- The template as it is written. -/
def text : String := .ofList (['\x7b', '\x7b'] ++ t.body ++ ['\x7d', '\x7d'])

/-- The name with the texts that its signs stand for. -/
def filled : List Char :=
  (if t.leading then before else []) ++ t.name ++ (if t.trailing then after else [])

theorem text_ne_empty : t.text ≠ "" := by
  simp [text, ← String.toList_inj]

/-- The outer braces are those of the template, whatever braces the name has at its ends. -/
theorem templateBody?_text : Identifier.templateBody? t.text.toList = some t.body := by
  rw [text, String.toList_ofList, List.append_assoc, Identifier.templateBody?, stripStart?_append,
    Option.bind_some, stripEnd?_append]

theorem fillStart_body : Identifier.fillStart before t.body =
    (if t.leading then before else []) ++ t.name ++ (if t.trailing then ['%'] else []) := by
  cases hleading : t.leading with
  | true => simp [body, hleading, Identifier.fillStart]
  | false =>
    obtain ⟨c, cs, hname⟩ := List.exists_cons_of_ne_nil t.name_ne_nil
    have hc : c ≠ '%' := fun h => t.head_ne (by simp [hname, h])
    simp only [body, hleading, hname]
    unfold Identifier.fillStart
    split
    next h => simp at h; exact absurd h.1 hc
    next => rfl

/-- The end of the name decides whether there is a sign after it. The text that was put in before
the name does not, because the name is not empty. -/
theorem fillEnd_append (cs : List Char) :
    Identifier.fillEnd after (cs ++ t.name ++ (if t.trailing then ['%'] else [])) =
      cs ++ t.name ++ (if t.trailing then after else []) := by
  cases t.trailing with
  | true =>
    simp only [if_true, Identifier.fillEnd, stripEnd?_append]
  | false =>
    have hnone : stripEnd? ['%'] (cs ++ t.name) = none := by
      refine Option.eq_none_iff_forall_ne_some.2 fun rest h => t.last_ne ?_
      have hlast : (cs ++ t.name).getLast? = some '%' := by simp [eq_append_of_stripEnd? h]
      have hname := List.getLast?_eq_some_getLast t.name_ne_nil
      rwa [List.getLast?_append, hname, Option.some_or, ← hname] at hlast
    simp [Identifier.fillEnd, hnone]

/-- A template is filled in once. -/
theorem resolve_text : Identifier.resolve before after t.text.toList = t.filled before after := by
  rw [Identifier.resolve, templateBody?_text]
  simp only [fillStart_body, fillEnd_append, filled]

end NameTemplate

namespace Quoter

/-- `q.Quotes group safe quoted` says that `quoted` is the quote of a safe name: the option for it
in the group if this has a text, and otherwise the name between backticks. -/
inductive Quotes (q : Quoter) (group safe : String) : String → Prop
  | given {full : String} (h : q.options.get? (group ++ "." ++ safe) = some full)
      (hne : full ≠ "") : Quotes q group safe full
  | ticked (h : ∀ full, q.options.get? (group ++ "." ++ safe) = some full → full = "") :
      Quotes q group safe ("\x60" ++ safe ++ "\x60")

variable (q : Quoter)

theorem quotes_quote (kind : NameKind) {name : String} (h : name ≠ "") :
    q.Quotes kind.group (q.safeName kind name) (q.quote kind name) := by
  have hempty : name.isEmpty = false := by simpa [String.isEmpty_iff] using h
  cases hover : q.override? kind (q.safeName kind name) with
  | none =>
    rw [quote_of_override?_eq_none hempty hover]
    refine .ticked fun full hfull => ?_
    simpa [override?, hfull, String.isEmpty_iff] using hover
  | some full =>
    obtain ⟨hfull, hne⟩ := Option.filter_eq_some_iff.1 hover
    simp only [quote, hempty, hover]
    exact .given hfull (by simpa [String.isEmpty_iff] using hne)

theorem safeName_text (kind : NameKind) (t : NameTemplate) :
    q.safeName kind t.text = .ofList (Identifier.escape
      (t.filled (q.option kind.beforeKey).toList (q.option kind.afterKey).toList)) := by
  rw [safeName, t.resolve_text]

/-- The quote of a template is that of the name in it with the texts of the options around it, where
its signs are, made safe. -/
theorem quotes_template (t : NameTemplate) :
    (let name := t.filled (q.option "table_prefix").toList (q.option "table_suffix").toList
     q.Quotes "tableMap" (.ofList (Identifier.escape name)) (q.table t.text)) ∧
    (let name := t.filled (q.option "column_prefix").toList (q.option "column_suffix").toList
     q.Quotes "columnMap" (.ofList (Identifier.escape name)) (q.column t.text)) := by
  have htable := q.quotes_quote .table t.text_ne_empty
  have hcolumn := q.quotes_quote .column t.text_ne_empty
  rw [safeName_text] at htable hcolumn
  exact ⟨htable, hcolumn⟩

end Quoter

/-- A sign before a name with braces of its own. -/
def bracedName : NameTemplate where
  leading := true
  name := ['\x7d', '\x7d', 'a']
  trailing := false
  name_ne_nil := by decide
  head_ne := by decide
  last_ne := by decide

/-- The text before the name may end in a percent sign, and a column may have a quote of its own. -/
theorem quotes_template_bracedName :
    let q : Quoter := ⟨[("table_prefix", "\x7b%"), ("columnMap.\x7d\x7da", "c")]⟩
    bracedName.text = "\x7b\x7b%\x7d\x7da\x7d\x7d" ∧
      q.Quotes "tableMap" "\x7b%\x7d\x7da" (q.table bracedName.text) ∧
      q.table bracedName.text = "\x60\x7b%\x7d\x7da\x60" ∧
      q.Quotes "columnMap" "\x7d\x7da" (q.column bracedName.text) ∧
      q.column bracedName.text = "c" := by
  intro q
  obtain ⟨htable, hcolumn⟩ := q.quotes_template bracedName
  have htableName : String.ofList (Identifier.escape (bracedName.filled
      (q.option "table_prefix").toList (q.option "table_suffix").toList)) = "\x7b%\x7d\x7da" := by
    decide +kernel
  have hcolumnName : String.ofList (Identifier.escape (bracedName.filled
      (q.option "column_prefix").toList (q.option "column_suffix").toList)) = "\x7d\x7da" := by
    decide +kernel
  exact ⟨by decide +kernel, htableName ▸ htable, by decide +kernel, hcolumnName ▸ hcolumn,
    by decide +kernel⟩

/-- A template with nothing but a sign is none of these: the end of the text that is put in counts
as a sign. -/
example : (⟨[("table_prefix", "a%"), ("table_suffix", "b")]⟩ : Quoter).table
    "\x7b\x7b%\x7d\x7d" = "\x60ab\x60" := by
  decide +kernel

end SchemaMigration
