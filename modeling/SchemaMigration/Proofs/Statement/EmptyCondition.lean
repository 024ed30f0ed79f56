import SchemaMigration.Proofs.Statement.Placeholders
import SchemaMigration.Proofs.Statement.ValueList
import SchemaMigration.Statement.Row

/-!
# Conditions without text

A condition counts as empty by its data, and a deletion has a `WHERE` clause if the text of its
condition is not empty. The two do not agree: a list of blank items and an expression that comes to
nothing are not empty, but leave the deletion without a clause.

## Main definitions

* `Expression.isHollow` — the expressions whose SQL comes to the empty text.
* `Condition.isSilent` — the conditions that are not empty and have no text.

The main result is `delete_unconditional_iff`.
-/

namespace SchemaMigration

/-! ## Interpolation -/

namespace BuiltExpression

/-- Only placeholders can vanish. -/
theorem weave_segments_eq_nil_iff (cs : List Char) (ps : List Value) :
    weave (segments false cs) ps = [] ↔
      (∀ c ∈ cs, c = '?') ∧ cs.length ≤ ps.length ∧
        ∀ p ∈ ps.take cs.length, p.isHollow = true := by
  induction cs generalizing ps with
  | nil => simp [segments, weave]
  | cons c cs ih =>
    by_cases hc : c = '?'
    · subst hc
      rw [weave_segments_mark]
      cases ps with
      | nil => simp
      | cons p ps =>
        have hp : p.literal.toList = [] ↔ p.isHollow = true := by
          rw [String.toList_eq_nil_iff, Value.literal_eq_empty_iff]
        simp only [List.head?_cons, Option.elim_some, List.tail_cons, List.append_eq_nil_iff, hp,
          ih, List.length_cons, List.take_succ_cons, List.forall_mem_cons]
        grind
    · rw [weave_segments_cons (by simp [hc])]
      simp [hc]

/-- Holds for SQL that comes to the empty text with its parameters: nothing but placeholders, all
with a value that has no literal. -/
def isHollow (b : BuiltExpression) : Bool :=
  b.sql.toList.all (· == '?') && decide (b.sql.toList.length ≤ b.params.length) &&
    (b.params.take b.sql.toList.length).all Value.isHollow

theorem interpolate_eq_empty_iff (b : BuiltExpression) :
    b.interpolate = "" ↔ b.isHollow = true := by
  simp [interpolate, String.ofList_eq_empty_iff, weave_segments_eq_nil_iff, isHollow, and_assoc]

end BuiltExpression

/-- Holds for an expression whose builder makes SQL of it that comes to the empty text. -/
def Expression.isHollow (r : ExpressionRegistry) (params : List Value) (e : Expression) : Bool :=
  match r.build e params with
  | .ok built => built.isHollow
  | .error _ => false

/-- The builder of lists makes nothing of values that have no literal, and only of these. -/
theorem Expression.isHollow_array {r : ExpressionRegistry} (h : r.BuildsLists)
    (values params : List Value) (bound : Bool) :
    (Expression.array values bound).isHollow r params =
      (Value.list ((values ++ params).flatMap ExpressionBuilder.spread)).isHollow := by
  have hbuild : r.build (.array values bound) params =
      .ok (ExpressionBuilder.buildArray (values ++ params) bound) := by
    simp only [ExpressionRegistry.build, Expression.cls, show r.builders.get? arrayClass = _ from h,
      ExpressionBuilder.build_array]
  rw [isHollow, hbuild, Bool.eq_iff_iff, ← BuiltExpression.interpolate_eq_empty_iff,
    BuiltExpression.interpolate_buildArray, Value.literal_eq_empty_iff]

/-! ## Conditions -/

namespace Condition

/-- Holds for a condition that is not empty and has no text: a list of blank items, or an expression
that comes to nothing. -/
def isSilent (r : ExpressionRegistry) : Condition → Bool
  | .array list =>
    list.pairs.isEmpty && !list.items.isEmpty && list.items.all fun s => (Text.trim s).isEmpty
  | .expression e params => e.isHollow r params
  | _ => false

theorem isSilent_eq_false_of_isEmpty {c : Condition} (r : ExpressionRegistry)
    (h : c.isEmpty = true) : c.isSilent r = false := by
  cases c <;> simp_all [isEmpty, isSilent, ItemList.isEmpty]

end Condition

namespace StatementBuilder

variable {b : StatementBuilder}

theorem pairClause_ne_empty {column : String} {v : Value} {clause : String}
    (h : b.pairClause column v = .ok clause) : clause ≠ "" := by
  unfold pairClause at h
  split at h
  · obtain rfl := Except.ok.inj h
    simp
  · obtain rfl := Except.ok.inj h
    simp
  · obtain ⟨text, -, rfl⟩ := map_eq_ok_iff.1 h
    simp
  · obtain rfl := Except.ok.inj h
    simp

theorem pairClauses_ok {pairs : List (String × Value)} {clauses : List String}
    (h : b.pairClauses pairs = .ok clauses) : "" ∉ clauses ∧ (clauses = [] ↔ pairs = []) := by
  induction pairs generalizing clauses with
  | nil =>
    obtain rfl := Except.ok.inj h
    simp
  | cons pair pairs ih =>
    obtain ⟨clause, hclause, h⟩ := bind_eq_ok_iff.1 h
    obtain ⟨rest, hrest, h⟩ := bind_eq_ok_iff.1 h
    obtain rfl := Except.ok.inj h
    simp [(ih hrest).1, (pairClause_ne_empty hclause).symm]

theorem conjunction_eq_empty_iff {parts : List String} (h : "" ∉ parts) :
    conjunction parts = "" ↔ parts = [] := by
  match parts with
  | [] => simp [conjunction]
  | [part] =>
    have hne : part ≠ "" := by simpa [eq_comm] using h
    simp [conjunction, hne]
  | p :: p' :: ps => simp [conjunction]

theorem pairsText_eq_empty_iff {pairs : List (String × Value)} {text : String}
    (h : b.pairsText pairs = .ok text) : text = "" ↔ pairs = [] := by
  obtain ⟨clauses, hclauses, rfl⟩ := map_eq_ok_iff.1 h
  obtain ⟨hne, hnil⟩ := pairClauses_ok hclauses
  rw [conjunction_eq_empty_iff hne, hnil]

/-- The text of a condition is empty if the condition is, and for the conditions that have no text
without being empty. -/
theorem conditionText_eq_empty_iff {c : Condition} {text : String}
    (h : b.conditionText c = .ok text) :
    text = "" ↔ c.isEmpty = true ∨ c.isSilent b.expressions = true := by
  cases c with
  | sql s =>
    obtain rfl := Except.ok.inj h
    simp [Condition.isEmpty, Condition.isSilent]
  | hash fields =>
    rw [pairsText_eq_empty_iff h]
    simp [Condition.isEmpty, Condition.isSilent]
  | array list =>
    obtain ⟨pairs, hpairs, h⟩ := bind_eq_ok_iff.1 h
    obtain rfl := Except.ok.inj h
    have hparts : "" ∉ itemClauses list ++ if pairs.isEmpty then [] else [pairs] := by
      rw [List.mem_append]
      rintro (hmem | hmem)
      · simp [itemClauses] at hmem
      · split at hmem <;> simp_all
    have hitems : itemClauses list = [] ↔ ∀ s ∈ list.items, Text.trim s = "" := by
      simp [itemClauses, List.filter_eq_nil_iff]
    rw [conjunction_eq_empty_iff hparts, List.append_eq_nil_iff, hitems]
    have hpairs := pairsText_eq_empty_iff hpairs
    cases hlist : list.items <;> cases hp : list.pairs <;>
      simp_all [Condition.isEmpty, Condition.isSilent, ItemList.isEmpty]
  | expression e params =>
    obtain ⟨built, hbuilt, rfl⟩ := map_eq_ok_iff.1 h
    rw [BuiltExpression.interpolate_eq_empty_iff]
    simp [Condition.isEmpty, Condition.isSilent, Expression.isHollow, hbuilt]

end StatementBuilder

/-- When a condition has a text, a deletion by it has no `WHERE` clause exactly if the condition is
empty or one of those that have no text without being empty. Lists of values are among these if they
have no literal. -/
theorem delete_unconditional_iff (b : StatementBuilder) {c : Condition} {text : String}
    (h : b.conditionText c = .ok text) :
    (text = "" ↔ c.isEmpty = true ∨ c.isSilent b.expressions = true) ∧
    ¬(c.isEmpty = true ∧ c.isSilent b.expressions = true) ∧
    (b.expressions.BuildsLists → ∀ values bound params,
      (Condition.expression (.array values bound) params).isSilent b.expressions =
        (Value.list ((values ++ params).flatMap ExpressionBuilder.spread)).isHollow) ∧
    ∀ table, b.delete table c = .ok ("DELETE FROM " ++ b.quoter.table table ++
      if c.isEmpty || c.isSilent b.expressions then "" else " WHERE " ++ text) := by
  have htext := StatementBuilder.conditionText_eq_empty_iff h
  refine ⟨htext, ?_, fun hlists values bound params =>
    Expression.isHollow_array hlists values params bound, ?_⟩
  · rintro ⟨hempty, hsilent⟩
    simp [Condition.isSilent_eq_false_of_isEmpty b.expressions hempty] at hsilent
  · intro table
    have hflags : (c.isEmpty || c.isSilent b.expressions) = true ↔ text = "" := by
      rw [Bool.or_eq_true, htext]
    have hwhere : b.whereText c = .ok (if text.isEmpty then "" else "WHERE " ++ text) := by
      rw [StatementBuilder.whereText, h]
      rfl
    have hwords : " " ++ ("WHERE " ++ text) = " WHERE " ++ text := by
      rw [← String.append_assoc]
      rfl
    rw [StatementBuilder.delete, hwhere]
    by_cases hnil : text = ""
    · simp [hflags, hnil, bind, Except.bind, pure, Except.pure, StatementBuilder.write, Part.write]
    · simp [hflags, hnil, bind, Except.bind, pure, Except.pure, StatementBuilder.write, Part.write,
        String.append_assoc, hwords]

/-- Blank items do not hide the pairs beside them. -/
theorem delete_unconditional_blankItem :
    let c := Condition.array (.parse (.list [.text " ", .map [("id", .null)]]))
    ({} : StatementBuilder).conditionText c = .ok "\x60id\x60 IS NULL" ∧
      c.isEmpty = false ∧ c.isSilent .usual = false ∧
      StatementBuilder.delete {} "t" c = .ok "DELETE FROM \x60t\x60 WHERE \x60id\x60 IS NULL" := by
  intro c
  have h : ({} : StatementBuilder).conditionText c = .ok "\x60id\x60 IS NULL" := by rfl
  obtain ⟨htext, -, -, hdelete⟩ := delete_unconditional_iff {} h
  have hflags : ¬(c.isEmpty = true ∨ c.isSilent .usual = true) :=
    fun hc => absurd (htext.2 hc) (by decide)
  simp only [not_or, Bool.not_eq_true] at hflags
  have hstatement := hdelete "t"
  rw [hflags.1, hflags.2] at hstatement
  exact ⟨h, hflags.1, hflags.2, hstatement.trans (by rfl)⟩

/-- A list of one blank item is not empty, and neither is an expression without values. A deletion
by one of them removes every row. -/
theorem delete_everything_of_blankItem :
    let blank := Condition.array (.parse (.list [.text "  "]))
    let values := Condition.expression (.array [] false) []
    ∀ c ∈ [blank, values], c.isEmpty = false ∧ ({} : StatementBuilder).conditionText c = .ok "" ∧
      StatementBuilder.delete {} "t" c = .ok "DELETE FROM \x60t\x60" := by
  intro blank values c hc
  obtain rfl | rfl : c = blank ∨ c = values := by simpa using hc
  · exact ⟨rfl, rfl, rfl⟩
  · exact ⟨rfl, rfl, rfl⟩

end SchemaMigration
