import SchemaMigration.Proofs.Statement.ValueList
import SchemaMigration.Statement.Row

/-!
# Keyed tables as conditions

A keyed table is a condition in itself, a list of its pairs, or one of the tables of a list. All
three come to the same conjunction: the clauses of the pairs in order, each in parentheses if there
are several, or the error of the first pair that has none.

The main result is `conditionText_keyedTables`.
-/

namespace SchemaMigration

/-! ## Items of a list of tables -/

namespace ItemList

variable (tables : List (List (String × Value)))

@[simp] theorem items_parse_tables : (parse (.list (tables.map .map))).items = [] := by
  simp [parse, ofValues, itemOf?]

@[simp] theorem pairs_parse_tables :
    (parse (.list (tables.map .map))).pairs = tables.flatten := by
  simp [parse, ofValues, pairsOf, List.flatMap_def, Function.comp_def]

end ItemList

/-! ## Conjunctions of pairs -/

/-- The first item of a kind is the head, or one behind it. -/
theorem exists_first_cons_iff {α : Type} {P R : α → Prop} {a : α} {as : List α} :
    (∃ before p after, a :: as = before ++ p :: after ∧ (∀ q ∈ before, P q) ∧ R p) ↔
      R a ∨ P a ∧ ∃ before p after, as = before ++ p :: after ∧ (∀ q ∈ before, P q) ∧ R p := by
  constructor
  · rintro ⟨before, p, after, heq, hbefore, hp⟩
    cases before with
    | nil =>
      obtain ⟨rfl, -⟩ := List.cons.inj heq
      exact .inl hp
    | cons q before =>
      obtain ⟨rfl, hrest⟩ := List.cons.inj heq
      obtain ⟨hq, hbefore⟩ := List.forall_mem_cons.1 hbefore
      exact .inr ⟨hq, before, p, after, hrest, hbefore, hp⟩
  · rintro (hp | ⟨hq, before, p, after, rfl, hbefore, hp⟩)
    · exact ⟨[], a, as, rfl, by simp, hp⟩
    · exact ⟨a :: before, p, after, rfl, List.forall_mem_cons.2 ⟨hq, hbefore⟩, hp⟩

namespace StatementBuilder

variable {b : StatementBuilder} {pairs : List (String × Value)}

theorem conjunction_eq (clauses : List String) :
    conjunction clauses = " AND ".intercalate
      (clauses.map fun clause => if 2 ≤ clauses.length then "(" ++ clause ++ ")" else clause) := by
  match clauses with
  | [] => rfl
  | [clause] => simp [conjunction]
  | _ :: _ :: _ => simp [conjunction]

theorem pairClauses_cons (p : String × Value) (pairs : List (String × Value)) :
    b.pairClauses (p :: pairs) =
      (b.pairClause p.1 p.2).bind fun clause => (b.pairClauses pairs).map (clause :: ·) := by
  simp only [pairClauses]
  cases b.pairClause p.1 p.2 <;> cases b.pairClauses pairs <;> rfl

theorem pairClauses_eq_ok_iff {clauses : List String} :
    b.pairClauses pairs = .ok clauses ↔
      pairs.map (fun p => b.pairClause p.1 p.2) = clauses.map .ok := by
  induction pairs generalizing clauses with
  | nil => cases clauses <;> simp [pairClauses]
  | cons p pairs ih =>
    rw [pairClauses_cons]
    cases hp : b.pairClause p.1 p.2 with
    | error e => cases clauses <;> simp [Except.bind, hp]
    | ok clause =>
      simp only [Except.bind, map_eq_ok_iff, ih]
      cases clauses with
      | nil => simp
      | cons first rest =>
        simp only [List.map_cons, List.cons.injEq, hp]
        grind

/-- The error is that of the first pair that has no clause. -/
theorem pairClauses_eq_error_iff {e : QueryError} :
    b.pairClauses pairs = .error e ↔
      ∃ before p after, pairs = before ++ p :: after ∧
        (∀ q ∈ before, ∃ clause, b.pairClause q.1 q.2 = .ok clause) ∧
        b.pairClause p.1 p.2 = .error e := by
  induction pairs with
  | nil => simp [pairClauses]
  | cons p pairs ih =>
    rw [pairClauses_cons, exists_first_cons_iff, ← ih]
    cases hp : b.pairClause p.1 p.2 with
    | error e' => simp [Except.bind]
    | ok clause => cases b.pairClauses pairs <;> simp [Except.bind, Except.map]

/-- A list without items is its pairs. -/
theorem conditionText_array_of_items_eq_nil {list : ItemList} (h : list.items = []) :
    b.conditionText (.array list) = b.conditionText (.hash list.pairs) := by
  have hitems : itemClauses list = [] := by simp [itemClauses, h]
  simp only [conditionText, hitems]
  cases b.pairsText list.pairs with
  | error e => rfl
  | ok text =>
    by_cases htext : text = "" <;>
      simp [bind, Except.bind, pure, Except.pure, conjunction, htext]

end StatementBuilder

/-- A keyed table is the same condition by itself and as a list of pairs. A list of tables is the
condition on the pairs of all of them, in order, where columns may be repeated: its text is the
conjunction of their clauses, and its error that of the first pair without a clause. -/
theorem conditionText_keyedTables (b : StatementBuilder) :
    (∀ fields, b.conditionText (.array (.parse (.map fields))) = b.conditionText (.hash fields)) ∧
    ∀ tables : List (List (String × Value)),
      let c := Condition.array (.parse (.list (tables.map .map)))
      b.conditionText c = b.conditionText (.hash tables.flatten) ∧
      (∀ text, b.conditionText c = .ok text ↔
        ∃ clauses : List String, tables.flatten.map (fun p => b.pairClause p.1 p.2) = clauses.map .ok ∧
          text = " AND ".intercalate (clauses.map fun clause =>
            if 2 ≤ clauses.length then "(" ++ clause ++ ")" else clause)) ∧
      ∀ e, b.conditionText c = .error e ↔
        ∃ before p after, tables.flatten = before ++ p :: after ∧
          (∀ q ∈ before, ∃ clause, b.pairClause q.1 q.2 = .ok clause) ∧
          b.pairClause p.1 p.2 = .error e := by
  refine ⟨fun fields => StatementBuilder.conditionText_array_of_items_eq_nil rfl, fun tables => ?_⟩
  intro c
  have hhash : b.conditionText c = b.conditionText (.hash tables.flatten) := by
    rw [← ItemList.pairs_parse_tables]
    exact StatementBuilder.conditionText_array_of_items_eq_nil (ItemList.items_parse_tables tables)
  have hclauses : b.conditionText c =
      (b.pairClauses tables.flatten).map StatementBuilder.conjunction := hhash
  refine ⟨hhash, fun text => ?_, fun e => ?_⟩
  · rw [hclauses, map_eq_ok_iff]
    refine exists_congr fun clauses => ?_
    rw [StatementBuilder.pairClauses_eq_ok_iff, StatementBuilder.conjunction_eq]
    exact and_congr_right fun _ => eq_comm
  · rw [hclauses, ← StatementBuilder.pairClauses_eq_error_iff]
    cases b.pairClauses tables.flatten <;> simp [Except.map]

end SchemaMigration
