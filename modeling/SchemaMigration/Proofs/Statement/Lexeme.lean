import SchemaMigration.Text.Chars

/-!
# Reading quoted names

A reader of statements who knows nothing but backticks: a token runs from one backtick to the next,
and what is outside of tokens are words.

## Main definitions

* `Lexeme.read` — the words and tokens of a text.
* `Lexeme.blank` — a lexeme without the text of a token, which leaves the shape of a statement.
* `Lexeme.countTicks` — how many backticks lexemes take.
-/

namespace SchemaMigration

open Chars

/-- What a reader of a statement meets. -/
inductive Lexeme where
  /-- Text outside of tokens. -/
  | words (cs : List Char)
  /-- A token, the text between two backticks. -/
  | name (cs : List Char)
  /-- The text behind a backtick that no other follows. -/
  | unclosed (cs : List Char)
deriving DecidableEq, Repr

namespace Lexeme

/-- Words before other lexemes. They join the words that follow, and no words are no lexeme. -/
def prepend : List Char → List Lexeme → List Lexeme
  | [], ls => ls
  | cs, .words ds :: ls => .words (cs ++ ds) :: ls
  | cs, ls => .words cs :: ls

/-- The lexemes of the pieces between backticks, where the first piece is inside of a token or
outside. -/
def ofPieces (inside : Bool) : List (List Char) → List Lexeme
  | [] => []
  | [piece] => if inside then [.unclosed piece] else prepend piece []
  | piece :: pieces =>
    if inside then .name piece :: ofPieces false pieces else prepend piece (ofPieces true pieces)

/-- The words and tokens of a text. -/
def read (cs : List Char) : List Lexeme := ofPieces false (splitOn '\x60' cs)

/-- A lexeme without the text of a token. -/
def blank : Lexeme → Lexeme
  | .name _ => .name []
  | l => l

/-- How many backticks a lexeme takes. -/
def ticks : Lexeme → Nat
  | .words _ => 0
  | .name _ => 2
  | .unclosed _ => 1

def countTicks : List Lexeme → Nat
  | [] => 0
  | l :: ls => l.ticks + countTicks ls

theorem ticks_blank (l : Lexeme) : l.blank.ticks = l.ticks := by cases l <;> rfl

@[simp] theorem countTicks_map_blank (ls : List Lexeme) :
    countTicks (ls.map blank) = countTicks ls := by
  induction ls with
  | nil => rfl
  | cons l ls ih => simp [countTicks, ticks_blank, ih]

@[simp] theorem prepend_nil (ls : List Lexeme) : prepend [] ls = ls := by cases ls <;> rfl

/-! ## Words and tokens -/

/-- What follows a piece of words is no words. -/
theorem ofPieces_true_ne_words (pieces : List (List Char)) (cs : List Char) (ls : List Lexeme) :
    ofPieces true pieces ≠ .words cs :: ls := by
  cases pieces with
  | nil => simp [ofPieces]
  | cons p ps => cases ps <;> simp [ofPieces]

theorem prepend_append (cs ds : List Char) {ls : List Lexeme}
    (h : ∀ es ms, ls ≠ .words es :: ms) : prepend (cs ++ ds) ls = prepend cs (prepend ds ls) := by
  cases cs with
  | nil => simp
  | cons c cs =>
    cases ds with
    | nil => simp
    | cons d ds =>
      cases ls with
      | nil => simp [prepend]
      | cons l ls =>
        cases l with
        | words es => exact absurd rfl (h es ls)
        | name es | unclosed es => simp [prepend]

theorem splitOn_append_of_notMem {sep : Char} {cs : List Char} (h : sep ∉ cs) (ds : List Char) :
    ∃ piece pieces, splitOn sep ds = piece :: pieces ∧
      splitOn sep (cs ++ ds) = (cs ++ piece) :: pieces := by
  induction cs with
  | nil =>
    obtain ⟨piece, pieces, hp⟩ := List.exists_cons_of_ne_nil (splitOn_ne_nil sep ds)
    exact ⟨piece, pieces, hp, hp⟩
  | cons c cs ih =>
    simp only [List.mem_cons, not_or] at h
    obtain ⟨piece, pieces, hp, hq⟩ := ih h.2
    exact ⟨piece, pieces, hp, by simp [splitOn, hq, Ne.symm h.1]⟩

/-- Text without backticks is words before what follows. -/
theorem read_append {cs : List Char} (h : '\x60' ∉ cs) (ds : List Char) :
    read (cs ++ ds) = prepend cs (read ds) := by
  obtain ⟨piece, pieces, hp, hq⟩ := splitOn_append_of_notMem h ds
  simp only [read, hp, hq]
  cases pieces with
  | nil => simp [ofPieces, prepend_append]
  | cons p ps =>
    simp only [ofPieces, Bool.false_eq_true, if_false]
    exact prepend_append cs piece (ofPieces_true_ne_words (p :: ps))

/-- Text without backticks between two of them is a token. -/
theorem read_token {cs : List Char} (h : '\x60' ∉ cs) (ds : List Char) :
    read ('\x60' :: (cs ++ '\x60' :: ds)) = .name cs :: read ds := by
  have hs := splitOn_append_cons (List.not_mem_nil (a := '\x60')) (cs ++ '\x60' :: ds)
  rw [splitOn_append_cons h] at hs
  obtain ⟨piece, pieces, hp⟩ := List.exists_cons_of_ne_nil (splitOn_ne_nil '\x60' ds)
  simp only [List.nil_append] at hs
  simp [read, hs, hp, ofPieces]

@[simp] theorem read_nil : read [] = [] := rfl

/-! ## Counting -/

theorem length_splitOn (sep : Char) (cs : List Char) :
    (splitOn sep cs).length = cs.count sep + 1 := by
  induction cs with
  | nil => rfl
  | cons c cs ih =>
    obtain ⟨piece, pieces, hp⟩ := List.exists_cons_of_ne_nil (splitOn_ne_nil sep cs)
    by_cases hc : c = sep <;> simp_all [splitOn]

@[simp] theorem countTicks_prepend (cs : List Char) (ls : List Lexeme) :
    countTicks (prepend cs ls) = countTicks ls := by
  unfold prepend
  split <;> simp [countTicks, ticks]

theorem countTicks_ofPieces (inside : Bool) {pieces : List (List Char)} (h : pieces ≠ []) :
    countTicks (ofPieces inside pieces) + 1 = pieces.length + inside.toNat := by
  induction pieces generalizing inside with
  | nil => exact absurd rfl h
  | cons p ps ih =>
    cases ps with
    | nil => cases inside <;> simp [ofPieces, countTicks, ticks]
    | cons p' ps =>
      have ih := ih (!inside) (by simp)
      cases inside <;> simp [ofPieces, countTicks, ticks] at ih ⊢ <;> omega

/-- The lexemes of a text take all of its backticks. -/
theorem countTicks_read (cs : List Char) : countTicks (read cs) = cs.count '\x60' := by
  have h := countTicks_ofPieces false (splitOn_ne_nil '\x60' cs)
  rw [length_splitOn] at h
  simpa [read] using h

end Lexeme

end SchemaMigration
