import SchemaMigration.Proofs.Statement.ValueList

/-!
# Placeholders and their parameters

SQL is cut at the question marks outside of single quotes, and the literals of the parameters go
between its pieces. Which marks these are is decided by the SQL alone: no literal that is put in
can hide a later placeholder, or add one.

## Main definitions

* `BuiltExpression.CutAtMarks` — the pieces of a text at its marks, by counting quotes.
* `BuiltExpression.placed` — what stands for the placeholder with a number.
* `BuiltExpression.Filling` — a reader who goes through the SQL once and writes as it reads.

The main results are `interpolate_simultaneous` and, on lists of values that are bound to
placeholders or written as they are, `interpolate_bound`.
-/

namespace SchemaMigration.BuiltExpression

/-! ## Cutting a text -/

/-- The text of some of the pieces from the first on, but not of all. -/
def IsFront (pieces : List (List Char)) (before : List Char) : Prop :=
  ∃ n, 0 < n ∧ n < pieces.length ∧ before = ['?'].intercalate (pieces.take n)

/-- The pieces of a text at the question marks outside of single quotes, when `quotes` single
quotes stand before the text. -/
structure CutAtMarks (quotes : Nat) (text : List Char) (pieces : List (List Char)) : Prop where
  ne_nil : pieces ≠ []
  join : ['?'].intercalate pieces = text
  /-- A mark is one of those between the pieces if an even number of quotes stands before it, and
  only then. -/
  mark_iff : ∀ before after, text = before ++ '?' :: after →
    (IsFront pieces before ↔ (quotes + before.count '\'') % 2 = 0)

section

variable {c : Char} {s before : List Char} {ss : List (List Char)}

theorem intercalate_cons_head :
    ['?'].intercalate ((c :: s) :: ss) = c :: ['?'].intercalate (s :: ss) := by
  cases ss <;> simp [List.intercalate_cons_cons]

theorem not_isFront_singleton : ¬IsFront [s] before := by
  rintro ⟨n, hpos, hlt, -⟩
  simp at hlt
  omega

/-- The first piece alone, or with some of the pieces behind it. -/
theorem isFront_cons_cons (t : List Char) :
    IsFront (s :: t :: ss) before ↔
      before = s ∨ ∃ rest, before = s ++ '?' :: rest ∧ IsFront (t :: ss) rest := by
  constructor
  · rintro ⟨n, hpos, hlt, rfl⟩
    match n with
    | 1 => exact .inl (by simp)
    | n + 2 =>
      refine .inr ⟨['?'].intercalate ((t :: ss).take (n + 1)), ?_, n + 1, by omega, ?_, rfl⟩
      · simp [List.intercalate_cons_cons]
      · simpa using hlt
  · rintro (rfl | ⟨rest, rfl, n, hpos, hlt, rfl⟩)
    · exact ⟨1, by omega, by simp, by simp⟩
    · obtain ⟨n, rfl⟩ : ∃ m, n = m + 1 := ⟨n - 1, by omega⟩
      exact ⟨n + 2, by omega, by simpa using hlt, by simp [List.intercalate_cons_cons]⟩

theorem isFront_cons_head :
    IsFront ((c :: s) :: ss) before ↔ ∃ rest, before = c :: rest ∧ IsFront (s :: ss) rest := by
  cases ss with
  | nil => simp [not_isFront_singleton]
  | cons t ss =>
    simp only [isFront_cons_cons, List.cons_append]
    grind

end

namespace CutAtMarks

variable {quotes : Nat} {c : Char} {text : List Char} {pieces : List (List Char)}

theorem nil_iff : CutAtMarks quotes [] pieces ↔ pieces = [[]] := by
  constructor
  · rintro ⟨hne, hjoin, -⟩
    obtain ⟨s, ss, rfl⟩ := List.exists_cons_of_ne_nil hne
    cases ss with
    | nil => simpa using hjoin
    | cons t ss => simp [List.intercalate_cons_cons] at hjoin
  · rintro rfl
    exact ⟨by simp, by simp, by simp⟩

/-- A mark outside of quotes ends the first piece. -/
theorem mark_cons_iff (hopen : quotes % 2 = 0) :
    CutAtMarks quotes ('?' :: text) pieces ↔
      ∃ rest, pieces = [] :: rest ∧ CutAtMarks quotes text rest := by
  constructor
  · rintro ⟨hne, hjoin, hmark⟩
    have hfront : IsFront pieces [] := (hmark [] text rfl).2 (by simpa using hopen)
    match pieces with
    | [] => exact absurd rfl hne
    | [s] => exact absurd hfront not_isFront_singleton
    | s :: t :: ss =>
      obtain rfl : s = [] := by
        rcases (isFront_cons_cons t).1 hfront with h | ⟨rest, h, -⟩
        · exact h.symm
        · simp at h
      obtain rfl : ['?'].intercalate (t :: ss) = text := by
        simpa [List.intercalate_cons_cons] using hjoin
      refine ⟨t :: ss, rfl, by simp, rfl, fun before after htext => ?_⟩
      have hshift := hmark ('?' :: before) after (by rw [htext]; rfl)
      rw [isFront_cons_cons] at hshift
      simpa using hshift
  · rintro ⟨rest, rfl, hne, rfl, hmark⟩
    obtain ⟨t, ss, rfl⟩ := List.exists_cons_of_ne_nil hne
    refine ⟨by simp, by simp [List.intercalate_cons_cons], fun before after htext => ?_⟩
    rw [isFront_cons_cons]
    cases before with
    | nil => simp [hopen]
    | cons d before =>
      obtain ⟨rfl, hrest⟩ := List.cons.inj htext
      simpa using hmark before after hrest

/-- Any other character belongs to the first piece. -/
theorem cons_iff (h : ¬(c = '?' ∧ quotes % 2 = 0)) :
    CutAtMarks quotes (c :: text) pieces ↔
      ∃ s ss, pieces = (c :: s) :: ss ∧
        CutAtMarks (quotes + [c].count '\'') text (s :: ss) := by
  have hcount : ∀ before : List Char,
      quotes + (c :: before).count '\'' = quotes + [c].count '\'' + before.count '\'' := by
    intro before
    rw [show c :: before = [c] ++ before from rfl, List.count_append, Nat.add_assoc]
  constructor
  · rintro ⟨hne, hjoin, hmark⟩
    match pieces with
    | [] => exact absurd rfl hne
    | [] :: [] => simp at hjoin
    | [] :: t :: ss =>
      -- pieces that begin so are cut at a mark in front of the text
      obtain ⟨rfl, -⟩ : '?' = c ∧ _ := List.cons.inj hjoin
      have hfront : IsFront ([] :: t :: ss) [] := (isFront_cons_cons t).2 (.inl rfl)
      exact absurd ⟨rfl, by simpa using (hmark [] text rfl).1 hfront⟩ h
    | (d :: s) :: ss =>
      obtain ⟨rfl, rfl⟩ := List.cons.inj (intercalate_cons_head.symm.trans hjoin)
      refine ⟨s, ss, rfl, by simp, rfl, fun before after htext => ?_⟩
      have hshift := hmark (d :: before) after (by rw [htext]; rfl)
      rw [isFront_cons_head, hcount] at hshift
      simpa using hshift
  · rintro ⟨s, ss, rfl, -, rfl, hmark⟩
    refine ⟨by simp, intercalate_cons_head, fun before after htext => ?_⟩
    rw [isFront_cons_head]
    cases before with
    | nil =>
      obtain ⟨rfl, -⟩ := List.cons.inj htext
      simpa using h
    | cons d before =>
      obtain ⟨rfl, hrest⟩ := List.cons.inj htext
      rw [hcount]
      simpa using hmark before after hrest

/-- Every text has one cut, and the segments are it. -/
theorem iff_eq_segments :
    CutAtMarks quotes text pieces ↔ pieces = segments (quotes % 2 == 1) text := by
  induction text generalizing quotes pieces with
  | nil => exact nil_iff
  | cons c text ih =>
    by_cases h : c = '?' ∧ quotes % 2 = 0
    · obtain ⟨rfl, hopen⟩ := h
      simp [mark_cons_iff hopen, ih, segments, hopen]
    · have hkept : ¬(c = '?' ∧ (quotes % 2 == 1) = false) := by simpa using h
      have hquoted : ((quotes + [c].count '\'') % 2 == 1) =
          if c = '\'' then !(quotes % 2 == 1) else quotes % 2 == 1 := by
        by_cases hc : c = '\''
        · have := Nat.mod_two_eq_zero_or_one quotes
          grind
        · simp [hc]
      obtain ⟨s, ss, hs⟩ := List.exists_cons_of_ne_nil
        (segments_ne_nil (if c = '\'' then !(quotes % 2 == 1) else quotes % 2 == 1) text)
      simp only [cons_iff h, ih, hquoted, segments, if_neg hkept, hs]
      grind

end CutAtMarks

/-! ## Putting literals in -/

/-- What stands for the placeholder with a number: the literal of its parameter, or the question
mark itself once the parameters run out. -/
def placed (params : List Value) (i : Nat) : List Char :=
  params[i]?.elim ['?'] fun p => p.literal.toList

theorem weave_eq (s : List Char) (ss : List (List Char)) (ps : List Value) :
    weave (s :: ss) ps = s ++ (ss.mapIdx fun i piece => placed ps i ++ piece).flatten := by
  induction ss generalizing s ps with
  | nil => simp [weave]
  | cons t ss ih => cases ps <;> simp [weave, ih, placed]

theorem weave_take (s : List Char) (ss : List (List Char)) (ps : List Value) :
    weave (s :: ss) (ps.take ss.length) = weave (s :: ss) ps := by
  induction ss generalizing s ps with
  | nil => simp [weave]
  | cons t ss ih => cases ps <;> simp [weave, ih]

theorem weave_cons (c : Char) (s : List Char) (ss : List (List Char)) (ps : List Value) :
    weave ((c :: s) :: ss) ps = c :: weave (s :: ss) ps := by
  cases ss with
  | nil => rfl
  | cons t ss => cases ps <;> rfl

/-- A placeholder takes the next parameter, or stays. -/
theorem weave_segments_mark (cs : List Char) (ps : List Value) :
    weave (segments false ('?' :: cs)) ps =
      (ps.head?.elim ['?'] fun p => p.literal.toList) ++ weave (segments false cs) ps.tail := by
  obtain ⟨s, ss, hs⟩ := List.exists_cons_of_ne_nil (segments_ne_nil false cs)
  cases ps <;> simp [segments, hs, weave]

/-- Any other character is kept. -/
theorem weave_segments_cons {quoted : Bool} {c : Char} (h : ¬(c = '?' ∧ quoted = false))
    (cs : List Char) (ps : List Value) :
    weave (segments quoted (c :: cs)) ps =
      c :: weave (segments (if c = '\'' then !quoted else quoted) cs) ps := by
  obtain ⟨s, ss, hs⟩ :=
    List.exists_cons_of_ne_nil (segments_ne_nil (if c = '\'' then !quoted else quoted) cs)
  rw [segments, if_neg h]
  simp only [hs, weave_cons]

/-! ## Reading once -/

/-- A reader of SQL on the way: whether quotes are open, the parameters that are left, and what is
written so far. -/
structure Filling where
  quoted : Bool := false
  params : List Value
  written : List Char := []

/-- Reads a character. A mark outside of quotes takes the next parameter, a quote opens or closes,
and whatever takes no parameter is written as it is. -/
def Filling.step (f : Filling) (c : Char) : Filling :=
  if c = '?' ∧ f.quoted = false then
    { f with
      params := f.params.tail
      written := f.written ++ f.params.head?.elim ['?'] fun p => p.literal.toList }
  else
    { f with
      quoted := if c = '\'' then !f.quoted else f.quoted
      written := f.written ++ [c] }

theorem Filling.written_foldl_step (f : Filling) (cs : List Char) :
    (cs.foldl step f).written = f.written ++ weave (segments f.quoted cs) f.params := by
  induction cs generalizing f with
  | nil => simp [segments, weave]
  | cons c cs ih =>
    rw [List.foldl_cons, ih, step]
    split
    next h =>
      obtain ⟨rfl, hquoted⟩ := h
      rw [hquoted, weave_segments_mark, List.append_assoc]
    next h => rw [weave_segments_cons h, List.append_assoc, List.singleton_append]

/-- Interpolation puts all the literals in at once. The SQL has one cut at its marks, whatever the
parameters, and between its pieces stand the literals in order, or marks once they run out. A
reader who goes through the SQL once writes the same, and parameters beyond the marks make no
difference. -/
theorem interpolate_simultaneous (sql : String) :
    ∃ s ss, (∀ pieces, CutAtMarks 0 sql.toList pieces ↔ pieces = s :: ss) ∧
      ∀ params : List Value,
        (interpolate ⟨sql, params⟩).toList =
          s ++ (ss.mapIdx fun i piece => placed params i ++ piece).flatten ∧
        (sql.toList.foldl Filling.step { params }).written = (interpolate ⟨sql, params⟩).toList ∧
        interpolate ⟨sql, params.take ss.length⟩ = interpolate ⟨sql, params⟩ := by
  obtain ⟨s, ss, hs⟩ := List.exists_cons_of_ne_nil (segments_ne_nil false sql.toList)
  refine ⟨s, ss, fun pieces => ?_, fun params => ⟨?_, ?_, ?_⟩⟩
  · rw [CutAtMarks.iff_eq_segments, ← hs]
    rfl
  · simp [interpolate, hs, weave_eq]
  · simp [Filling.written_foldl_step, interpolate]
  · simp [interpolate, hs, weave_take]

/-- A mark and a quote in a literal are no placeholder and no end of the quotes. -/
example : interpolate ⟨"a = ? OR b = '?' OR c = ?", [.text "?'", .bool true]⟩ =
    "a = '?''' OR b = '?' OR c = 1" := by
  decide +kernel

/-! ## Lists of values -/

theorem weave_placeholders (ps : List Value) :
    weave (segments false ([',', ' '].intercalate (List.replicate ps.length ['?']))) ps =
      [',', ' '].intercalate (ps.map fun p => p.literal.toList) := by
  induction ps with
  | nil => rfl
  | cons p ps ih =>
    cases ps with
    | nil => simp [segments, weave]
    | cons p' ps =>
      simp only [List.length_cons, List.replicate_succ, List.map_cons,
        List.intercalate_cons_cons, List.cons_append, List.nil_append] at ih ⊢
      rw [weave_segments_mark, weave_segments_cons (by simp), weave_segments_cons (by simp)]
      simp only [List.tail_cons, Char.reduceEq, if_false, ih]
      simp

/-- Bound values are put in place of their placeholders as they would be written themselves. -/
theorem interpolate_buildArray (values : List Value) (bound : Bool) :
    (ExpressionBuilder.buildArray values bound).interpolate =
      (Value.list (values.flatMap ExpressionBuilder.spread)).literal := by
  rw [← String.toList_inj, ExpressionBuilder.buildArray]
  generalize values.flatMap ExpressionBuilder.spread = flat
  cases bound <;>
    simp [interpolate, Value.literal, Value.literals_eq_map, weave_segments_nil,
      weave_placeholders, Function.comp_def]

theorem count_placeholders (n : Nat) :
    (", ".intercalate (List.replicate n "?")).toList.count '?' = n := by
  induction n with
  | zero => rfl
  | succ n ih =>
    cases n with
    | zero => rfl
    | succ n =>
      rw [List.replicate_succ] at ih ⊢
      rw [List.replicate_succ, String.intercalate_cons_cons, String.toList_append,
        List.count_append, ih]
      exact Nat.add_comm _ _

/-- Values that are bound to placeholders come to the same text as the same values written as they
are, with all further parameters. The bound SQL has one mark for each of its parameters, which are
the values in order. The two kinds agree in every registry where no other builder takes lists, also
on the error if there is one. -/
theorem interpolate_bound (values params : List Value) :
    ∃ bound unbound : BuiltExpression,
      ExpressionBuilder.array.build (.array values true) params = .ok bound ∧
      ExpressionBuilder.array.build (.array values false) params = .ok unbound ∧
      bound.interpolate = unbound.sql ∧
      unbound.interpolate = unbound.sql ∧
      bound.params = (values ++ params).flatMap ExpressionBuilder.spread ∧
      bound.sql.toList.count '?' = bound.params.length ∧
      ∀ r : ExpressionRegistry, r.GuardsLists →
        (r.build (.array values true) params).map interpolate =
          (r.build (.array values false) params).map sql := by
  have hunbound : (ExpressionBuilder.buildArray (values ++ params) false).sql =
      (Value.list ((values ++ params).flatMap ExpressionBuilder.spread)).literal := by
    simp [ExpressionBuilder.buildArray, Value.literal, Value.literals_eq_map]
  have hsame : ∀ bound, (ExpressionBuilder.buildArray (values ++ params) bound).interpolate =
      (ExpressionBuilder.buildArray (values ++ params) false).sql := fun bound =>
    (interpolate_buildArray _ bound).trans hunbound.symm
  refine ⟨_, _, rfl, rfl, hsame true, hsame false, rfl, count_placeholders _, fun r hr => ?_⟩
  simp only [ExpressionRegistry.build, Expression.cls]
  cases hb : r.builders.get? arrayClass with
  | none => rfl
  | some b =>
    rcases hr b hb with rfl | ⟨e, he⟩
    · exact congrArg Except.ok (hsame true)
    · simp only [he]
      rfl

end SchemaMigration.BuiltExpression
