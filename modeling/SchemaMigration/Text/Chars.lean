/-!
# Character lists

Cutting, trimming and replacing on lists of characters. The text of a statement, a locator or a
name is taken apart here, so that each of these operations has laws about lists.

## Main definitions

* `Chars.isBlank` — the characters of the Unicode property `White_Space`.
* `Chars.trim`, `Chars.dropEndWhile` — a list without a class of characters at its ends.
* `Chars.splitOn` — the pieces between the occurrences of one character.
* `Chars.cut?`, `Chars.cutAt?` — the text before and after a first occurrence.
-/

namespace SchemaMigration.Chars

/-- The characters with the Unicode property `White_Space`. -/
def isBlank (c : Char) : Bool :=
  c == ' ' || ('\t' ≤ c && c ≤ '\r') || c == '\u0085' || c == '\u00a0' || c == '\u1680' ||
    ('\u2000' ≤ c && c ≤ '\u200a') || c == '\u2028' || c == '\u2029' || c == '\u202f' ||
    c == '\u205f' || c == '\u3000'

/-- The visible characters of ASCII are no white space. -/
theorem isBlank_eq_false_of_ascii {c : Char} (h : 32 < c.toNat) (h' : c.toNat < 128) :
    isBlank c = false := by
  rw [Bool.eq_false_iff]
  intro hb
  simp only [isBlank, Bool.or_eq_true, Bool.and_eq_true, beq_iff_eq, decide_eq_true_eq,
    Char.le_def, UInt32.le_iff_toNat_le] at hb
  rcases hb with (((((((((rfl | hb) | rfl) | rfl) | rfl) | hb) | rfl) | rfl) | rfl) | rfl) | rfl
  all_goals simp_all
  · obtain ⟨_, hle⟩ := hb
    omega
  · omega

/-! ## Ends -/

/-- The list without the longest run of `p` at its end. -/
def dropEndWhile (p : Char → Bool) (cs : List Char) : List Char :=
  (cs.reverse.dropWhile p).reverse

def trimStart (cs : List Char) : List Char := cs.dropWhile isBlank

def trimEnd (cs : List Char) : List Char := dropEndWhile isBlank cs

def trim (cs : List Char) : List Char := trimEnd (trimStart cs)

@[simp] theorem dropEndWhile_nil (p : Char → Bool) : dropEndWhile p [] = [] := rfl

theorem dropEndWhile_concat (p : Char → Bool) (cs : List Char) (c : Char) :
    dropEndWhile p (cs ++ [c]) = if p c then dropEndWhile p cs else cs ++ [c] := by
  by_cases h : p c <;> simp [dropEndWhile, h]

/-- What is left never ends in a dropped character. -/
theorem getLast?_dropEndWhile (p : Char → Bool) (cs : List Char) :
    ∀ c ∈ (dropEndWhile p cs).getLast?, p c = false := by
  intro c hc
  simp only [dropEndWhile, List.getLast?_reverse] at hc
  have := List.head?_dropWhile_not p cs.reverse
  simp_all

/-- The part of a list that has `p` throughout is dropped only from the end. -/
theorem dropEndWhile_append_of_all {p : Char → Bool} {cs ds : List Char}
    (h : ∀ c ∈ ds, p c = true) : dropEndWhile p (cs ++ ds) = dropEndWhile p cs := by
  simp only [dropEndWhile, List.reverse_append]
  rw [List.dropWhile_append_of_pos (by simpa using h)]

/-- The list without a leading occurrence of `start`, if it has one. -/
def stripStart? : List Char → List Char → Option (List Char)
  | [], cs => some cs
  | s :: start, c :: cs => if s = c then stripStart? start cs else none
  | _ :: _, [] => none

/-- The list without a trailing occurrence of `stop`, if it has one. -/
def stripEnd? (stop cs : List Char) : Option (List Char) :=
  (stripStart? stop.reverse cs.reverse).map List.reverse

theorem stripStart?_append (start cs : List Char) : stripStart? start (start ++ cs) = some cs := by
  induction start with
  | nil => rfl
  | cons s start ih => simp [stripStart?, ih]

theorem eq_append_of_stripStart? {start cs rest : List Char}
    (h : stripStart? start cs = some rest) : cs = start ++ rest := by
  fun_induction stripStart? start cs with
  | case1 cs => simpa using h
  | case2 s start cs ih => simp [ih h]
  | case3 => simp at h
  | case4 => simp at h

theorem stripEnd?_append (stop cs : List Char) : stripEnd? stop (cs ++ stop) = some cs := by
  simp [stripEnd?, stripStart?_append]

theorem eq_append_of_stripEnd? {stop cs rest : List Char} (h : stripEnd? stop cs = some rest) :
    cs = rest ++ stop := by
  obtain ⟨front, hfront, rfl⟩ := Option.map_eq_some_iff.1 h
  have hreverse := congrArg List.reverse (eq_append_of_stripStart? hfront)
  simpa using hreverse

/-! ## Pieces -/

/-- The pieces between the occurrences of `sep`. There is always at least one piece. -/
def splitOn (sep : Char) : List Char → List (List Char)
  | [] => [[]]
  | c :: cs =>
    match splitOn sep cs with
    | [] => [[c]]
    | piece :: pieces => if c = sep then [] :: piece :: pieces else (c :: piece) :: pieces

theorem splitOn_ne_nil (sep : Char) (cs : List Char) : splitOn sep cs ≠ [] := by
  cases cs with
  | nil => simp [splitOn]
  | cons c cs =>
    simp only [splitOn]
    split <;> simp
    split <;> simp

/-- A text without the separator is one piece. -/
theorem splitOn_of_notMem {sep : Char} {cs : List Char} (h : sep ∉ cs) :
    splitOn sep cs = [cs] := by
  induction cs with
  | nil => rfl
  | cons c cs ih =>
    simp only [List.mem_cons, not_or] at h
    simp [splitOn, ih h.2, Ne.symm h.1]

/-- A piece that ends at a separator is the first of the pieces. -/
theorem splitOn_append_cons {sep : Char} {cs : List Char} (h : sep ∉ cs) (ds : List Char) :
    splitOn sep (cs ++ sep :: ds) = cs :: splitOn sep ds := by
  induction cs with
  | nil =>
    simp only [List.nil_append, splitOn]
    split
    · exact absurd ‹_› (splitOn_ne_nil _ _)
    · simp_all
  | cons c cs ih =>
    simp only [List.mem_cons, not_or] at h
    simp [splitOn, ih h.2, Ne.symm h.1]

/-- The text before and after the first `sep`, if there is one. -/
def cut? (sep : Char) : List Char → Option (List Char × List Char)
  | [] => none
  | c :: cs => if c = sep then some ([], cs) else (cut? sep cs).map fun (a, b) => (c :: a, b)

theorem cut?_append_cons {sep : Char} {cs : List Char} (h : sep ∉ cs) (ds : List Char) :
    cut? sep (cs ++ sep :: ds) = some (cs, ds) := by
  induction cs with
  | nil => simp [cut?]
  | cons c cs ih =>
    simp only [List.mem_cons, not_or] at h
    simp [cut?, Ne.symm h.1, ih h.2]

theorem cut?_eq_none_iff {sep : Char} {cs : List Char} : cut? sep cs = none ↔ sep ∉ cs := by
  induction cs with
  | nil => simp [cut?]
  | cons c cs ih =>
    by_cases h : c = sep
    · simp [cut?, h]
    · simp [cut?, h, ih, Ne.symm h]

theorem eq_append_of_cut? {sep : Char} {cs before after : List Char}
    (h : cut? sep cs = some (before, after)) : cs = before ++ sep :: after ∧ sep ∉ before := by
  induction cs generalizing before with
  | nil => simp [cut?] at h
  | cons c cs ih =>
    by_cases hc : c = sep
    · simp_all [cut?]
    · simp only [cut?, hc, if_false, Option.map_eq_some_iff, Prod.exists] at h
      obtain ⟨a, b, hab, he⟩ := h
      obtain ⟨rfl, rfl⟩ := Prod.mk.inj he
      obtain ⟨rfl, hn⟩ := ih hab
      exact ⟨by simp, by simp [hn, Ne.symm hc]⟩

/-- The text before and after the first occurrence of `mark`, if there is one. -/
def cutAt? (mark : List Char) : List Char → Option (List Char × List Char)
  | [] => (stripStart? mark []).map fun rest => ([], rest)
  | c :: cs =>
    match stripStart? mark (c :: cs) with
    | some rest => some ([], rest)
    | none => (cutAt? mark cs).map fun (a, b) => (c :: a, b)

def replace (c : Char) (by' : List Char) (cs : List Char) : List Char :=
  cs.flatMap fun d => if d = c then by' else [d]

theorem replace_cons (c : Char) (ds : List Char) (d : Char) (cs : List Char) :
    replace c ds (d :: cs) = (if d = c then ds else [d]) ++ replace c ds cs := by
  simp [replace]

end SchemaMigration.Chars
