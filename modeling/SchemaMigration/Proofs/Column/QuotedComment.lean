import Mathlib.Data.List.Basic
import Mathlib.Data.List.Induction
import SchemaMigration.Proofs.Column.Clauses
import SchemaMigration.Proofs.Script.Confinement

/-!
# Comments between double quotes

A comment is written between double quotes, with a backslash before each double quote that it holds.
For its reader a backslash makes the next character literal, whatever that is, and the first double
quote that is not literal ends the text. The two fit as long as the comment has no backslash of its
own: one before a double quote or at the end of the comment lets the text end too early or too late.

## Main definitions

* `DoubleQuoted.read?` — the text between two double quotes, and what follows it.
* `DoubleQuoted.escaped` — a text with a backslash before each double quote.
* `DoubleQuoted.EvenRuns` — texts whose backslashes pair up before every double quote.

The main result is `read_comment_iff`.
-/

namespace SchemaMigration

open Chars

namespace DoubleQuoted

/-! ## Reading -/

/-- Reads up to the closing quote: what stands before it, and what follows it. The next character is
literal behind a backslash. -/
def readFrom : Bool → List Char → Option (List Char × List Char)
  | _, [] => none
  | true, c :: cs => (readFrom false cs).map fun (value, rest) => (c :: value, rest)
  | false, c :: cs =>
    if c = '"' then some ([], cs)
    else if c = '\\' then readFrom true cs
    else (readFrom false cs).map fun (value, rest) => (c :: value, rest)

/-- The text between a double quote at the start and the one that closes it, and what follows. -/
def read? : List Char → Option (List Char × List Char)
  | '"' :: cs => readFrom false cs
  | _ => none

/-- A text with a backslash before each double quote. -/
def escaped (cs : List Char) : List Char := replace '"' ['\\', '"'] cs

/-- How many backslashes stand at the end of a text. -/
def endRun (cs : List Char) : Nat := (cs.reverse.takeWhile (· == '\\')).length

/-- Holds if an even number of backslashes stands before every double quote, and at the end. -/
def EvenRuns (cs : List Char) : Prop :=
  endRun cs % 2 = 0 ∧ ∀ before after, cs = before ++ '"' :: after → endRun before % 2 = 0

@[simp] theorem escaped_nil : escaped [] = [] := rfl

@[simp] theorem escaped_cons (c : Char) (cs : List Char) :
    escaped (c :: cs) = if c = '"' then '\\' :: '"' :: escaped cs else c :: escaped cs := by
  by_cases h : c = '"' <;> simp [escaped, replace_cons, h]

@[simp] theorem endRun_nil : endRun [] = 0 := rfl

theorem endRun_concat (cs : List Char) (c : Char) :
    endRun (cs ++ [c]) = if c = '\\' then endRun cs + 1 else 0 := by
  by_cases h : c = '\\' <;> simp [endRun, h]

theorem escaped_append_ne (cs rest : List Char) : escaped cs ++ '"' :: rest ≠ rest := by
  intro heq
  have hlength := congrArg List.length heq
  simp only [List.length_append, List.length_cons] at hlength
  omega

/-- What is read behind a character is read with it. -/
theorem map_cons_eq_some_iff {c : Char} {o : Option (List Char × List Char)}
    {value rest : List Char} :
    (o.map fun (value, rest) => (c :: value, rest)) = some (value, rest) ↔
      ∃ tail, value = c :: tail ∧ o = some (tail, rest) := by
  constructor
  · intro h
    obtain ⟨⟨tail, rest'⟩, ho, heq⟩ := Option.map_eq_some_iff.1 h
    obtain ⟨rfl, rfl⟩ := Prod.mk.inj heq
    exact ⟨tail, rfl, ho⟩
  · rintro ⟨tail, rfl, rfl⟩
    rfl

/-! ## Where a comment ends -/

/-- Holds if the closing quote is the one before `rest`. -/
def Ends (literal : Bool) (cs rest : List Char) : Prop :=
  ∃ value, readFrom literal cs = some (value, rest)

section

variable {c : Char} {cs rest : List Char}

theorem ends_literal : Ends true (c :: cs) rest ↔ Ends false cs rest := by
  simp only [Ends, readFrom, map_cons_eq_some_iff]
  grind

theorem ends_quote : Ends false ('"' :: cs) rest ↔ cs = rest := by
  simp [Ends, readFrom]

theorem ends_backslash : Ends false ('\\' :: cs) rest ↔ Ends true cs rest := by
  simp [Ends, readFrom]

theorem ends_plain (hq : c ≠ '"') (hb : c ≠ '\\') :
    Ends false (c :: cs) rest ↔ Ends false cs rest := by
  simp only [Ends, readFrom, hq, hb, if_false, map_cons_eq_some_iff]
  grind

/-- The closing quote is no part of what follows it. -/
theorem Ends.length_lt {literal : Bool} (h : Ends literal cs rest) : rest.length < cs.length := by
  induction cs generalizing literal with
  | nil => exact absurd h (by simp [Ends, readFrom])
  | cons c cs ih =>
    by_cases hliteral : literal = true
    · subst hliteral
      exact Nat.lt_succ_of_lt (ih (ends_literal.1 h))
    · obtain rfl : literal = false := by simpa using hliteral
      by_cases hq : c = '"'
      · subst hq
        obtain rfl := ends_quote.1 h
        simp
      · by_cases hb : c = '\\'
        · subst hb
          exact Nat.lt_succ_of_lt (ih (ends_backslash.1 h))
        · exact Nat.lt_succ_of_lt (ih ((ends_plain hq hb).1 h))

end

/-- The double quotes of a text are its head and those behind it. -/
theorem forall_quote_cons_iff {P : List Char → Prop} {c : Char} {cs : List Char} :
    (∀ before after, c :: cs = before ++ '"' :: after → P before) ↔
      (c = '"' → P []) ∧ ∀ before after, cs = before ++ '"' :: after → P (c :: before) := by
  constructor
  · intro h
    refine ⟨fun hc => h [] cs (by simp [hc]), fun before after heq => ?_⟩
    exact h (c :: before) after (by simp [heq])
  · rintro ⟨hhead, htail⟩ before after heq
    cases before with
    | nil => exact hhead (List.cons.inj heq).1
    | cons d before =>
      obtain ⟨rfl, hrest⟩ := List.cons.inj heq
      exact htail before after hrest

/-- The text ends at its own closing quote if the backslashes before every quote pair up. Those that
were read before decide if the first character is literal. -/
theorem ends_iff (front cs rest : List Char) :
    Ends (endRun front % 2 == 1) (escaped cs ++ '"' :: rest) rest ↔
      endRun (front ++ cs) % 2 = 0 ∧
        ∀ before after, cs = before ++ '"' :: after → endRun (front ++ before) % 2 = 0 := by
  induction cs generalizing front with
  | nil =>
    have hlate : ¬Ends false rest rest := fun h => absurd h.length_lt (Nat.lt_irrefl _)
    by_cases hodd : endRun front % 2 = 1
    · simp [hodd, ends_literal, hlate]
    · have heven : endRun front % 2 = 0 := by omega
      simp [heven, ends_quote]
  | cons c cs ih =>
    have ih := ih (front ++ [c])
    simp only [List.append_assoc, List.singleton_append, endRun_concat] at ih
    rw [forall_quote_cons_iff, List.append_nil, ← and_assoc, and_right_comm, ← ih]
    by_cases hodd : endRun front % 2 = 1
    · by_cases hq : c = '"'
      · -- the backslash that guards the quote is itself literal, so the text ends here
        simp [hodd, hq, ends_literal, ends_quote, escaped_append_ne]
      · have hpair : ((if c = '\\' then endRun front + 1 else 0) % 2 == 1) = false := by
          split <;> simp; omega
        simp [hodd, hq, hpair, ends_literal]
    · have heven : endRun front % 2 = 0 := by omega
      by_cases hq : c = '"'
      · simp [heven, hq, ends_backslash, ends_literal]
      · by_cases hb : c = '\\'
        · have hnext : (endRun front + 1) % 2 = 1 := by omega
          simp [heven, hb, hnext, ends_backslash]
        · simp [heven, hq, hb, ends_plain]

/-! ## What a comment reads as -/

/-- What stands in a text with a backslash before each double quote. A backslash of the text itself
makes the next character literal and is lost. -/
def literalText : Bool → List Char → List Char
  | _, [] => []
  | true, c :: cs => c :: literalText false cs
  | false, c :: cs => if c = '\\' then literalText true cs else c :: literalText false cs

theorem eq_literalText_of_readFrom {literal : Bool} {cs rest value : List Char}
    (h : readFrom literal (escaped cs ++ '"' :: rest) = some (value, rest)) :
    value = literalText literal cs := by
  induction cs generalizing literal value with
  | nil =>
    cases literal with
    | false =>
      obtain ⟨rfl, -⟩ := Prod.mk.inj (Option.some.inj h)
      rfl
    | true => exact absurd (ends_literal.1 ⟨value, h⟩).length_lt (Nat.lt_irrefl _)
  | cons c cs ih =>
    cases literal with
    | false =>
      by_cases hq : c = '"'
      · subst hq
        obtain ⟨tail, rfl, htail⟩ := map_cons_eq_some_iff.1 h
        simp [literalText, ih htail]
      · by_cases hb : c = '\\'
        · subst hb
          exact ih h
        · simp only [escaped_cons, hq, if_false, List.cons_append, readFrom, hb] at h
          obtain ⟨tail, rfl, htail⟩ := map_cons_eq_some_iff.1 h
          simp [literalText, hb, ih htail]
    | true =>
      by_cases hq : c = '"'
      · subst hq
        exact absurd (ends_quote.1 (ends_literal.1 ⟨value, h⟩)) (escaped_append_ne cs rest)
      · simp only [escaped_cons, hq, if_false, List.cons_append] at h
        obtain ⟨tail, rfl, htail⟩ := map_cons_eq_some_iff.1 h
        simp [literalText, ih htail]

theorem length_literalText_le (literal : Bool) (cs : List Char) :
    (literalText literal cs).length ≤ cs.length := by
  fun_induction literalText literal cs <;> grind

/-- A text with a backslash reads as a shorter one. -/
theorem literalText_eq_self_iff {cs : List Char} : literalText false cs = cs ↔ '\\' ∉ cs := by
  induction cs with
  | nil => simp [literalText]
  | cons c cs ih =>
    by_cases hb : c = '\\'
    · have hle := length_literalText_le true cs
      refine iff_of_false (fun heq => ?_) (by simp [hb])
      have hlength := congrArg List.length heq
      simp only [literalText, hb, if_true, List.length_cons] at hlength
      omega
    · simp [literalText, hb, ih, Ne.symm hb]

theorem endRun_eq_zero {cs : List Char} (h : '\\' ∉ cs) : endRun cs = 0 := by
  induction cs using List.reverseRecOn with
  | nil => rfl
  | append_singleton cs c _ =>
    have hc : c ≠ '\\' := fun heq => h (by simp [heq])
    rw [endRun_concat, if_neg hc]

theorem evenRuns_of_notMem {cs : List Char} (h : '\\' ∉ cs) : EvenRuns cs := by
  refine ⟨by rw [endRun_eq_zero h], fun before after heq => ?_⟩
  rw [endRun_eq_zero fun hmem => h (by simp [heq, hmem])]

/-- The text ends at its own closing quote if and only if the backslashes before its double quotes
pair up, and then it is read without those that make a character literal. -/
theorem readFrom_escaped_iff {cs rest value : List Char} :
    readFrom false (escaped cs ++ '"' :: rest) = some (value, rest) ↔
      EvenRuns cs ∧ value = literalText false cs := by
  have hends : Ends false (escaped cs ++ '"' :: rest) rest ↔ EvenRuns cs := ends_iff [] cs rest
  constructor
  · intro h
    exact ⟨hends.1 ⟨value, h⟩, eq_literalText_of_readFrom h⟩
  · rintro ⟨heven, rfl⟩
    obtain ⟨value, h⟩ := hends.2 heven
    rw [← eq_literalText_of_readFrom h]
    exact h

end DoubleQuoted

/-! ## Comments of columns -/

namespace Column

/-- With a comment, the definition of a column has just that comment more, at one place. -/
theorem definition_set_comment {c : Column} {t : ColumnType} (h : c.type? = some t) (q : Quoter) :
    ∃ before after, (c.set (.comment "")).definition q = before ++ after ∧
      ∀ s ≠ "", (c.set (.comment s)).definition q =
        before ++ (" COMMENT " ++ quoteComment s) ++ after := by
  have hshows : c.Shows t .comment := by
    refine ⟨?_, fun h => absurd h (by decide)⟩
    unfold clauseNames
    split <;> decide
  obtain ⟨before, after, heq⟩ := definition_set_setting h q .comment
  refine ⟨before, after, ?_, fun s hs => ?_⟩
  · simpa [hshows, TextField.setting, TextField.clauseText] using heq ""
  · simpa [hshows, TextField.setting, TextField.clauseText, hs] using heq s

end Column

/-- A comment is written between double quotes, once among the clauses of a column and once by a
function. Its reader comes to the end of the comment just there if and only if the backslashes
before its double quotes and at its end pair up, and then reads it without the first of each pair
and without those before other characters. So the comment reads as itself if and only if it has no
backslash. -/
theorem read_comment_iff (s : String) (hs : s ≠ "") :
    let quoted := (Column.quoteComment s).toList
    (∀ rest value, DoubleQuoted.read? (quoted ++ rest) = some (value, rest) ↔
      DoubleQuoted.EvenRuns s.toList ∧ value = DoubleQuoted.literalText false s.toList) ∧
    (∀ rest, DoubleQuoted.read? (quoted ++ rest) = some (s.toList, rest) ↔ '\\' ∉ s.toList) ∧
    (∀ (c : Column) (q : Quoter) (t : ColumnType), c.type? = some t →
      ∃ before after, (c.set (.comment "")).definition q = before ++ after ∧
        (c.set (.comment s)).definition q =
          before ++ (" COMMENT " ++ Column.quoteComment s) ++ after) ∧
    ∀ i invoke, Eval.runIn i (Eval.apply invoke [.ofString s] .comment) =
      (.ok (.ofString ("COMMENT(" ++ Column.quoteComment s ++ ")")), i) := by
  intro quoted
  have hquoted (rest : List Char) : DoubleQuoted.read? (quoted ++ rest) =
      DoubleQuoted.readFrom false (DoubleQuoted.escaped s.toList ++ '"' :: rest) := by
    simp [quoted, Column.quoteComment, DoubleQuoted.read?, DoubleQuoted.escaped]
  have hread (rest value : List Char) :
      DoubleQuoted.read? (quoted ++ rest) = some (value, rest) ↔
        DoubleQuoted.EvenRuns s.toList ∧ value = DoubleQuoted.literalText false s.toList := by
    rw [hquoted]
    exact DoubleQuoted.readFrom_escaped_iff
  refine ⟨hread, fun rest => ?_, fun c q t ht => ?_, fun i invoke => rfl⟩
  · rw [hread, eq_comm (a := s.toList), DoubleQuoted.literalText_eq_self_iff]
    exact and_iff_right_of_imp DoubleQuoted.evenRuns_of_notMem
  · obtain ⟨before, after, hwithout, hwith⟩ := Column.definition_set_comment ht q
    exact ⟨before, after, hwithout, hwith s hs⟩

/-- A column with clauses before and behind its comment. -/
def placedColumn : Column where
  tag := "string"
  length := [64]
  check? := some "a <> '\"'"
  after? := some "id"
  append? := some "COLLATE \"x\""

/-- Backslashes in pairs before a double quote leave the end of the text where it is. -/
theorem read_comment_pairedBackslashes :
    let s := "say \\\\\"hi\" \\n"
    let quoted := (Column.quoteComment s).toList
    let behind := " COLLATE \"x\",".toList
    s ≠ "" ∧ placedColumn.type? = some .string ∧
      DoubleQuoted.read? (quoted ++ behind) = some ("say \\\"hi\" n".toList, behind) ∧
      DoubleQuoted.EvenRuns s.toList ∧
      "say \\\"hi\" n".toList = DoubleQuoted.literalText false s.toList ∧
      DoubleQuoted.read? (quoted ++ behind) ≠ some (s.toList, behind) ∧
      ∃ before after, (placedColumn.set (.comment "")).definition {} = before ++ after ∧
        (placedColumn.set (.comment s)).definition {} =
          before ++ (" COMMENT " ++ Column.quoteComment s) ++ after := by
  intro s quoted behind
  have hs : s ≠ "" := by decide
  have hb : '\\' ∈ s.toList := by decide
  have ht : placedColumn.type? = some .string := by decide
  have hvalue : DoubleQuoted.read? (quoted ++ behind) = some ("say \\\"hi\" n".toList, behind) := by
    decide +kernel
  obtain ⟨hread, hself, hplace, -⟩ := read_comment_iff s hs
  obtain ⟨heven, hliteral⟩ := (hread _ _).1 hvalue
  exact ⟨hs, ht, hvalue, heven, hliteral, fun h => (hself _).1 h hb,
    hplace placedColumn {} .string ht⟩

/-- A backslash at the end of a comment swallows the clauses behind it, one before a double quote
ends the text early, and any other is lost. -/
theorem read_comment_of_backslash :
    let c := ((Column.ofTag "string").set (.comment "a\\")).set (.after "b")
    c.definition {} =
        "string(255) NOT NULL COMMENT " ++ (Column.quoteComment "a\\" ++ " AFTER \x60b\x60") ∧
      DoubleQuoted.read? (Column.quoteComment "a\\" ++ " AFTER \x60b\x60").toList = none ∧
      DoubleQuoted.read? (Column.quoteComment "\\\" FIRST").toList =
        some (['\\'], " FIRST\"".toList) ∧
      DoubleQuoted.read? (Column.quoteComment "C:\\tmp").toList = some ("C:tmp".toList, []) := by
  decide +kernel

end SchemaMigration
