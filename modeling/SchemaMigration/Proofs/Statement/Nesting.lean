/-!
# Reading nested text

A reader of SQL who knows only quotes and parentheses. Between quotes nothing else counts; a quote
that is written twice closes and opens again, so it is no end. A text can be split at the
occurrences of a separator outside of quotes and parentheses.

## Main definitions

* `Position.next` — where the reader stands behind a character.
* `Position.scan` — the same behind a text that does not show a certain character at the top.
* `Nesting.split` — the pieces between separators, if every quote and parenthesis is closed.

The main result on splitting is `split_intercalate`.
-/

namespace SchemaMigration

/-- Inside how many parentheses a reader stands, and behind which opening quote. -/
structure Position where
  depth : Nat := 0
  quote : Option Char := none
deriving DecidableEq, Repr

namespace Position

/-- Outside of quotes and parentheses. -/
def top : Position := {}

/-- The single quote, and the backtick if `ticks` count. -/
def isQuote (ticks : Bool) (c : Char) : Bool := c == '\'' || (ticks && c == '\x60')

/-- The position behind a character. A parenthesis that closes nothing leads nowhere. -/
def next (ticks : Bool) (p : Position) (c : Char) : Option Position :=
  match p.quote with
  | some q => some (if c = q then { p with quote := none } else p)
  | none =>
    if isQuote ticks c then some { p with quote := some c }
    else if c = '(' then some { p with depth := p.depth + 1 }
    else if c = ')' then if p.depth = 0 then none else some { p with depth := p.depth - 1 }
    else some p

/-- The position behind a text. The reader gives up when it meets `stop?` at the top. -/
def scan (ticks : Bool) (stop? : Option Char) (p : Position) : List Char → Option Position
  | [] => some p
  | c :: cs =>
    if p = top ∧ stop? = some c then none
    else (p.next ticks c).bind fun p' => scan ticks stop? p' cs

/-- The position with one more parenthesis around it. -/
def inside (p : Position) : Position := { p with depth := p.depth + 1 }

variable {ticks : Bool} {stop? : Option Char}

@[simp] theorem scan_nil (p : Position) : scan ticks stop? p [] = some p := rfl

theorem scan_append (p : Position) (cs ds : List Char) :
    scan ticks stop? p (cs ++ ds) =
      (scan ticks stop? p cs).bind fun p' => scan ticks stop? p' ds := by
  induction cs generalizing p with
  | nil => rfl
  | cons c cs ih =>
    simp only [List.cons_append, scan]
    split
    · rfl
    · cases p.next ticks c with
      | none => rfl
      | some p' => exact ih p'

/-- A reader who never gives up reads on. -/
theorem scan_none {p p' : Position} {cs : List Char} (h : scan ticks stop? p cs = some p') :
    scan ticks none p cs = some p' := by
  induction cs generalizing p with
  | nil => exact h
  | cons c cs ih =>
    simp only [scan] at h
    split at h
    · simp at h
    · obtain ⟨p₁, hnext, hrest⟩ := Option.bind_eq_some_iff.1 h
      simp [scan, hnext, ih hrest]

theorem inside_ne_top (p : Position) : p.inside ≠ top := by simp [inside, top]

theorem next_inside {p p' : Position} {c : Char} (h : p.next ticks c = some p') :
    p.inside.next ticks c = some p'.inside := by
  obtain ⟨depth, quote⟩ := p
  cases quote <;> grind [next, inside]

/-- What can be read outside can be read inside of parentheses, where nothing stops the reader. -/
theorem scan_inside {p p' : Position} {cs : List Char} {stop'? : Option Char}
    (h : scan ticks stop? p cs = some p') : scan ticks stop'? p.inside cs = some p'.inside := by
  induction cs generalizing p with
  | nil => simp_all
  | cons c cs ih =>
    simp only [scan] at h
    split at h
    · simp at h
    · obtain ⟨p₁, hnext, hrest⟩ := Option.bind_eq_some_iff.1 h
      simp [scan, inside_ne_top, next_inside hnext, ih hrest]

/-! ## Texts that end where they begin -/

/-- Neither a quote nor a parenthesis. -/
def isWordChar (c : Char) : Bool := !(['\'', '\x60', '(', ')'].contains c)

theorem next_of_isWordChar {p : Position} {c : Char} (hp : p.quote = none)
    (h : isWordChar c = true) : p.next ticks c = some p := by
  simp_all [next, isQuote, isWordChar]

/-- Words leave an unquoted reader in place. -/
theorem scan_words {p : Position} {cs : List Char} (hp : p.quote = none)
    (h : cs.all (fun c => isWordChar c && stop? != some c) = true) :
    scan ticks stop? p cs = some p := by
  induction cs with
  | nil => rfl
  | cons c cs ih =>
    simp only [List.all_cons, Bool.and_eq_true, bne_iff_ne] at h
    obtain ⟨⟨hc, hstop⟩, hcs⟩ := h
    simp [scan, hstop, next_of_isWordChar hp hc, ih (by simpa using hcs)]

theorem scan_intercalate {p : Position} {sep : List Char} {items : List (List Char)}
    (hsep : scan ticks stop? p sep = some p)
    (hitems : ∀ cs ∈ items, scan ticks stop? p cs = some p) :
    scan ticks stop? p (sep.intercalate items) = some p := by
  induction items with
  | nil => rfl
  | cons cs items ih =>
    obtain ⟨hcs, hitems⟩ := List.forall_mem_cons.1 hitems
    cases items with
    | nil => simpa using hcs
    | cons next items =>
      rw [List.intercalate_cons_cons, scan_append, scan_append, hcs, Option.bind_some, hsep]
      exact ih hitems

/-- Between quotes there are no positions to leave. -/
theorem scan_behind_quote {q : Char} {depth : Nat} {cs : List Char} (h : q ∉ cs) :
    scan ticks stop? ⟨depth, some q⟩ cs = some ⟨depth, some q⟩ := by
  induction cs with
  | nil => rfl
  | cons c cs ih =>
    simp only [List.mem_cons, not_or] at h
    simp [scan, next, top, Ne.symm h.1, ih h.2]

/-- A quoted text is passed as a whole. -/
theorem scan_quoted {q : Char} {cs : List Char} (hq : isQuote ticks q = true)
    (hstop : stop? ≠ some q) (h : q ∉ cs) :
    scan ticks stop? top (q :: (cs ++ [q])) = some top := by
  simp [scan, scan_append, hstop, next, top, hq, scan_behind_quote h]

/-- A text in parentheses is passed as a whole if the text is. -/
theorem scan_parentheses {cs : List Char} {stop'? : Option Char}
    (h : scan ticks stop'? top cs = some top) (hstop : stop? ≠ some '(') :
    scan ticks stop? top ('(' :: (cs ++ [')'])) = some top := by
  have hopen : isQuote ticks '(' = false := by simp [isQuote]
  have hclose : isQuote ticks ')' = false := by simp [isQuote]
  have hin : top.next ticks '(' = some top.inside := by simp [next, top, inside, hopen]
  have hout : top.inside.next ticks ')' = some top := by simp [next, top, inside, hclose]
  simp [scan, scan_append, hstop, hin, scan_inside h, inside_ne_top, hout]

end Position

/-! ## Splitting -/

namespace Nesting

open Position

/-- A text before the first of the pieces. -/
def onto (cs : List Char) : List (List Char) → List (List Char)
  | [] => [cs]
  | piece :: rest => (cs ++ piece) :: rest

/-- The pieces of a text from a position on, when `skip` characters of a separator are still to be
read. -/
def pieces (ticks : Bool) (sep : List Char) :
    Nat → Position → List Char → Option (List (List Char))
  | _, p, [] => if p = top then some [[]] else none
  | skip + 1, p, _ :: cs => pieces ticks sep skip p cs
  | 0, p, c :: cs =>
    if p = top ∧ sep.isPrefixOf (c :: cs) then
      (pieces ticks sep (sep.length - 1) p cs).map ([] :: ·)
    else (p.next ticks c).bind fun p' => (pieces ticks sep 0 p' cs).map (onto [c])

/-- The pieces between the separators outside of quotes and parentheses. A text that leaves one of
these open, or closes one too many, has no pieces. -/
def split (ticks : Bool) (sep cs : List Char) : Option (List (List Char)) :=
  pieces ticks sep 0 top cs

variable {ticks : Bool} {stop : Char} {sep : List Char}

theorem onto_append (cs ds : List Char) (pieces : List (List Char)) :
    onto (cs ++ ds) pieces = onto cs (onto ds pieces) := by
  cases pieces <;> simp [onto]

theorem map_onto_nil {pieces? : Option (List (List Char))} (h : ∀ ps ∈ pieces?, ps ≠ []) :
    pieces?.map (onto []) = pieces? := by
  cases pieces? with
  | none => rfl
  | some ps =>
    obtain ⟨piece, rest, rfl⟩ := List.exists_cons_of_ne_nil (h ps rfl)
    rfl

theorem pieces_ne_nil {skip : Nat} {p : Position} {cs : List Char} :
    ∀ ps ∈ pieces ticks sep skip p cs, ps ≠ [] := by
  fun_induction pieces ticks sep skip p cs with
  | case1 | case2 => simp
  | case3 _ _ _ _ ih => exact ih
  | case4 => simp
  | case5 p c cs h ih =>
    intro ps hps
    obtain ⟨p', -, hps⟩ := Option.bind_eq_some_iff.1 hps
    obtain ⟨ps', -, rfl⟩ := Option.map_eq_some_iff.1 hps
    cases ps' <;> simp [onto]

theorem pieces_skip (p : Position) (ds cs : List Char) :
    pieces ticks sep ds.length p (ds ++ cs) = pieces ticks sep 0 p cs := by
  induction ds with
  | nil => rfl
  | cons d ds ih => exact ih

/-- A separator at the top ends a piece. -/
theorem split_sep_append (cs : List Char) :
    split ticks (stop :: sep) (stop :: sep ++ cs) =
      (split ticks (stop :: sep) cs).map ([] :: ·) := by
  have hsep : (stop :: sep).isPrefixOf (stop :: (sep ++ cs)) = true := by simp
  simp [split, pieces, hsep, pieces_skip]

/-- A text that never shows the first character of the separator at the top goes to the first of
the pieces that follow. -/
theorem pieces_append {p p' : Position} {cs : List Char}
    (h : scan ticks (some stop) p cs = some p') (ds : List Char) :
    pieces ticks (stop :: sep) 0 p (cs ++ ds) =
      (pieces ticks (stop :: sep) 0 p' ds).map (onto cs) := by
  induction cs generalizing p with
  | nil =>
    obtain rfl : p = p' := by simpa using h
    exact (map_onto_nil pieces_ne_nil).symm
  | cons c cs ih =>
    simp only [scan] at h
    split at h
    · simp at h
    next hstop =>
      obtain ⟨p₁, hnext, hrest⟩ := Option.bind_eq_some_iff.1 h
      have hsep : ¬(p = top ∧ (stop :: sep).isPrefixOf (c :: (cs ++ ds)) = true) := by
        rintro ⟨hp, hpre⟩
        obtain ⟨rfl, -⟩ := List.cons_prefix_cons.1 (List.isPrefixOf_iff_prefix.1 hpre)
        exact hstop ⟨hp, rfl⟩
      simp only [List.cons_append, pieces, if_neg hsep, hnext, Option.bind_some, ih hrest,
        Option.map_map]
      congr 1
      funext ps
      exact (onto_append [c] cs ps).symm

/-- Texts with a separator between them, and perhaps a gap behind it, are read one by one. The gaps
go to the pieces behind them. -/
theorem split_intercalate {gap item : List Char} {items : List (List Char)}
    (hgap : scan ticks (some stop) top gap = some top)
    (hitem : scan ticks (some stop) top item = some top)
    (hitems : ∀ cs ∈ items, scan ticks (some stop) top cs = some top) :
    split ticks (stop :: sep) ((stop :: sep ++ gap).intercalate (item :: items)) =
      some (item :: items.map (gap ++ ·)) := by
  induction items generalizing item with
  | nil => simpa [split, pieces, onto] using pieces_append hitem []
  | cons next items ih =>
    obtain ⟨hnext, hitems⟩ := List.forall_mem_cons.1 hitems
    have hgapped : scan ticks (some stop) top (gap ++ next) = some top := by
      simp [scan_append, hgap, hnext]
    have hjoin : (stop :: sep ++ gap).intercalate (item :: next :: items) =
        item ++ (stop :: sep ++ (stop :: sep ++ gap).intercalate ((gap ++ next) :: items)) := by
      cases items <;> simp [List.intercalate_cons_cons]
    rw [hjoin, split, pieces_append hitem, ← split, split_sep_append, ih hgapped hitems]
    simp [onto]

/-- A separator is not read without meeting its characters. -/
theorem scan_sep_append (hmem : stop ∈ sep) (hsep : sep.all isWordChar = true) (cs : List Char) :
    scan ticks (some stop) top (sep ++ cs) = none := by
  induction sep with
  | nil => simp at hmem
  | cons c sep ih =>
    simp only [List.all_cons, Bool.and_eq_true] at hsep
    by_cases hstop : stop = c
    · simp [scan, hstop]
    · have hmem : stop ∈ sep := by simpa [hstop] using hmem
      simp [scan, hstop, @next_of_isWordChar ticks top c rfl hsep.1, ih hmem hsep.2]

/-- A text that lacks some character of the separator at the top is one piece. -/
theorem pieces_of_scan (hmem : stop ∈ sep) (hsep : sep.all isWordChar = true)
    {p : Position} {cs : List Char} (h : scan ticks (some stop) p cs = some top) :
    pieces ticks sep 0 p cs = some [cs] := by
  induction cs generalizing p with
  | nil =>
    obtain rfl : p = top := by simpa using h
    rfl
  | cons c cs ih =>
    have hno : ¬(p = top ∧ sep.isPrefixOf (c :: cs) = true) := by
      rintro ⟨rfl, hpre⟩
      obtain ⟨rest, hrest⟩ := List.isPrefixOf_iff_prefix.1 hpre
      simp [← hrest, scan_sep_append hmem hsep] at h
    simp only [scan] at h
    split at h
    · simp at h
    · obtain ⟨p₁, hnext, hrest⟩ := Option.bind_eq_some_iff.1 h
      rw [pieces, if_neg hno]
      simp [hnext, ih hrest, onto]

end Nesting

end SchemaMigration
