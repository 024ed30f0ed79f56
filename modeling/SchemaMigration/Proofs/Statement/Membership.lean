import SchemaMigration.Proofs.Statement.Placeholders
import SchemaMigration.Proofs.Statement.ValueList
import SchemaMigration.Statement.Row

/-!
# Membership in a list

The conjunct of a column and a list says that the column has one of the scalars of the list. Lists
among its values are spread out in three places: the conjunct looks whether the list itself is
empty, the builder of lists spreads out one level, and literals spread out the rest. The literal of
an empty list is the empty text, so an empty list below the first level leaves a gap between commas.

## Main definitions

* `Value.scalars` — the values in a value that are no lists, at any depth.
* `Value.fields` — the texts between the commas of a literal.
* `StatementBuilder.membership` — the conjunct for given scalars.

The main result is `pairClause_list_iff`.
-/

namespace SchemaMigration

/-! ## Texts between commas -/

section

variable {texts : List String}

theorem length_intercalate (h : texts ≠ []) :
    (", ".intercalate texts).length + 2 =
      (texts.flatMap String.toList).length + 2 * texts.length := by
  induction texts with
  | nil => exact absurd rfl h
  | cons text texts ih =>
    cases texts with
    | nil => simp [String.length_toList]
    | cons next texts =>
      have hsep : ", ".length = 2 := rfl
      have hrest := ih (by simp)
      simp only [String.intercalate_cons_cons, String.length_append, hsep, List.flatMap_cons,
        List.length_append, String.length_toList, List.length_cons] at hrest ⊢
      omega

theorem flatMap_filter_toList :
    (texts.filter (· ≠ "")).flatMap String.toList = texts.flatMap String.toList := by
  induction texts with
  | nil => rfl
  | cons text texts ih => by_cases h : text = "" <;> simp_all

/-- A gap between commas can be seen if anything stands beside it. -/
theorem intercalate_filter_iff (h : texts.filter (· ≠ "") ≠ []) :
    ", ".intercalate texts = ", ".intercalate (texts.filter (· ≠ "")) ↔ "" ∉ texts := by
  constructor
  · intro heq
    have htexts : texts ≠ [] := by
      rintro rfl
      exact h rfl
    have hlength : (texts.filter (· ≠ "")).length = texts.length := by
      have hall := length_intercalate htexts
      have hfiltered := length_intercalate h
      rw [flatMap_filter_toList, ← heq] at hfiltered
      omega
    have hself := List.filter_sublist.eq_of_length hlength
    simpa using List.filter_eq_self.1 hself ""
  · intro hgap
    rw [List.filter_eq_self.2 fun text htext => ?_]
    exact decide_eq_true fun hempty => hgap (hempty ▸ htext)

end

/-! ## Scalars and gaps -/

namespace Value

mutual

/-- The values in a value that are no lists, at any depth, from left to right. -/
def scalars : Value → List Value
  | .list items => itemScalars items
  | v => [v]

/-- The scalars of a list of values. -/
def itemScalars : List Value → List Value
  | [] => []
  | v :: vs => v.scalars ++ itemScalars vs

end

mutual

/-- The texts between the commas of a literal: those of scalars, and nothing for an empty list. -/
def fields : Value → List String
  | .list items => if items.isEmpty then [""] else itemFields items
  | v => [v.literal]

/-- The fields of a list of values. -/
def itemFields : List Value → List String
  | [] => []
  | v :: vs => v.fields ++ itemFields vs

end

mutual

/-- Holds if a value is an empty list, or has one in it at any depth. -/
def hasEmptyList : Value → Bool
  | .list items => items.isEmpty || anyEmptyList items
  | _ => false

/-- The same of some value of a list. -/
def anyEmptyList : List Value → Bool
  | [] => false
  | v :: vs => v.hasEmptyList || anyEmptyList vs

end

theorem fields_ne_nil (v : Value) : v.fields ≠ [] := by
  match v with
  | .list [] => simp [fields]
  | .list (w :: ws) => simp [fields, itemFields, fields_ne_nil w]
  | .null | .bool _ | .number _ | .text _ | .map _ => simp [fields]

theorem literal_ne_empty {v : Value} (hv : ∀ items, v ≠ .list items) : v.literal ≠ "" := by
  rw [Ne, literal_eq_empty_iff]
  cases v with
  | list items => exact absurd rfl (hv items)
  | _ => simp [isHollow]

mutual

/-- A literal is its fields. -/
theorem literal_eq_fields (v : Value) : v.literal = ", ".intercalate v.fields := by
  match v with
  | .list [] => rfl
  | .list (w :: ws) => simpa [literal, fields] using intercalate_literals (w :: ws)
  | .null | .bool _ | .number _ | .text _ | .map _ => simp [fields]

theorem intercalate_literals (vs : List Value) :
    ", ".intercalate (literals vs) = ", ".intercalate (itemFields vs) := by
  match vs with
  | [] => rfl
  | [v] => simp [literals, itemFields, literal_eq_fields v]
  | v :: w :: ws =>
    have hrest : itemFields (w :: ws) ≠ [] := by simp [itemFields, fields_ne_nil]
    rw [literals, itemFields, String.intercalate_append_of_ne_nil (fields_ne_nil v) hrest,
      String.intercalate_cons_of_ne_nil (by simp [literals]), literal_eq_fields v,
      intercalate_literals (w :: ws)]

end

mutual

/-- The fields that are no gaps are the literals of the scalars, in order. -/
theorem filter_fields (v : Value) : v.fields.filter (· ≠ "") = v.scalars.map literal := by
  match v with
  | .list [] => rfl
  | .list (w :: ws) => simpa [fields, scalars] using filter_itemFields (w :: ws)
  | .null | .bool _ | .number _ | .text _ | .map _ => simp [fields, scalars, literal_ne_empty]

theorem filter_itemFields (vs : List Value) :
    (itemFields vs).filter (· ≠ "") = (itemScalars vs).map literal := by
  match vs with
  | [] => rfl
  | v :: vs =>
    rw [itemFields, itemScalars, List.filter_append, List.map_append, filter_fields v,
      filter_itemFields vs]

end

mutual

/-- Every empty list leaves a gap. -/
theorem empty_mem_fields_iff (v : Value) : "" ∈ v.fields ↔ v.hasEmptyList = true := by
  match v with
  | .list [] => simp [fields, hasEmptyList]
  | .list (w :: ws) => simpa [fields, hasEmptyList] using empty_mem_itemFields_iff (w :: ws)
  | .null | .bool _ | .number _ | .text _ | .map _ =>
    refine iff_of_false ?_ (by simp [hasEmptyList])
    simpa [fields] using (literal_ne_empty (by simp)).symm

theorem empty_mem_itemFields_iff (vs : List Value) :
    "" ∈ itemFields vs ↔ anyEmptyList vs = true := by
  match vs with
  | [] => simp [itemFields, anyEmptyList]
  | v :: vs =>
    rw [itemFields, anyEmptyList, List.mem_append, Bool.or_eq_true, empty_mem_fields_iff v,
      empty_mem_itemFields_iff vs]

end

theorem itemScalars_append (vs ws : List Value) :
    itemScalars (vs ++ ws) = itemScalars vs ++ itemScalars ws := by
  induction vs with
  | nil => rfl
  | cons v vs ih => simp [itemScalars, ih]

/-- Spreading out a level of lists keeps the scalars. -/
theorem itemScalars_spread (vs : List Value) :
    itemScalars (vs.flatMap ExpressionBuilder.spread) = itemScalars vs := by
  induction vs with
  | nil => rfl
  | cons v vs ih =>
    rw [List.flatMap_cons, itemScalars_append, ih, itemScalars]
    cases v <;> simp [ExpressionBuilder.spread, itemScalars, scalars]

end Value

/-! ## The conjunct of a list -/

namespace StatementBuilder

/-- That a column has one of some scalars. Without scalars no row meets it. -/
def membership (b : StatementBuilder) (column : String) (scalars : List Value) : String :=
  if scalars.isEmpty then "0=1"
  else b.quoter.column column ++ " IN (" ++ ", ".intercalate (scalars.map Value.literal) ++ ")"

variable {b : StatementBuilder} {column : String} {items : List Value}

theorem conditionText_hash_singleton (b : StatementBuilder) (column : String) (v : Value) :
    b.conditionText (.hash [(column, v)]) = b.pairClause column v := by
  simp only [conditionText, pairsText, pairClauses]
  cases b.pairClause column v <;> rfl

/-- A list with items is written with the fields of these, spread out once. -/
theorem pairClause_list_eq (h : b.expressions.BuildsLists) (hne : items ≠ []) :
    b.pairClause column (.list items) =
      .ok (b.quoter.column column ++ " IN (" ++
        ", ".intercalate (Value.itemFields (items.flatMap ExpressionBuilder.spread)) ++ ")") := by
  obtain ⟨v, vs, rfl⟩ := List.exists_cons_of_ne_nil hne
  have htext := ExpressionRegistry.listText_eq h (v :: vs)
  rw [← Value.literals_eq_map, Value.intercalate_literals] at htext
  simp only [pairClause, htext]
  rfl

/-- Only the builder of lists writes one, and the empty list needs none. -/
theorem pairClause_list_eq_ok_iff (hguards : b.expressions.GuardsLists) {clause : String} :
    b.pairClause column (.list items) = .ok clause ↔
      items = [] ∧ clause = "0=1" ∨
      items ≠ [] ∧ b.expressions.BuildsLists ∧
        clause = b.quoter.column column ++ " IN (" ++
          ", ".intercalate (Value.itemFields (items.flatMap ExpressionBuilder.spread)) ++ ")" := by
  by_cases hnil : items = []
  · subst hnil
    simp [pairClause, eq_comm]
  · simp only [hnil, false_and, false_or, ne_eq, not_false_eq_true, true_and]
    constructor
    · intro h
      have hlists : b.expressions.BuildsLists := by
        obtain ⟨v, vs, rfl⟩ := List.exists_cons_of_ne_nil hnil
        obtain ⟨text, htext, -⟩ := map_eq_ok_iff.1 h
        exact ExpressionRegistry.buildsLists_of_listText hguards htext
      rw [pairClause_list_eq hlists hnil] at h
      exact ⟨hlists, (Except.ok.inj h).symm⟩
    · rintro ⟨hlists, rfl⟩
      exact pairClause_list_eq hlists hnil

/-- Fields are the membership of their scalars if there are some, and no gap between them. -/
theorem eq_membership_iff (b : StatementBuilder) (column : String) {texts : List String}
    {scalars : List Value} (h : texts.filter (· ≠ "") = scalars.map Value.literal) :
    b.quoter.column column ++ " IN (" ++ ", ".intercalate texts ++ ")" =
      b.membership column scalars ↔ scalars ≠ [] ∧ "" ∉ texts := by
  cases scalars with
  | nil =>
    refine iff_of_false (fun heq => ?_) (by simp)
    have hlast := congrArg (fun s : String => s.toList.reverse.head?) heq
    simp [membership] at hlast
  | cons v vs =>
    have hne : texts.filter (· ≠ "") ≠ [] := by
      rw [h]
      simp
    rw [← intercalate_filter_iff hne, h]
    simp [membership]

end StatementBuilder

/-- The conjunct of a column and a list is `0=1` for the empty list. Any other is written by the
builder of lists, unless another builder takes lists, and has the literals of the scalars in order,
and a gap for every empty list that lies deeper than the items of the list itself. So it says that
the column has one of the scalars exactly if the list is empty, or has a scalar and no such gap. -/
theorem pairClause_list_iff (b : StatementBuilder) (hguards : b.expressions.GuardsLists)
    (column : String) (items : List Value) :
    let spread := items.flatMap ExpressionBuilder.spread
    let fields := Value.itemFields spread
    let scalars := Value.itemScalars items
    b.conditionText (.hash [(column, .list items)]) = b.pairClause column (.list items) ∧
    (∀ clause, b.pairClause column (.list items) = .ok clause ↔
      items = [] ∧ clause = "0=1" ∨
      items ≠ [] ∧ b.expressions.BuildsLists ∧
        clause = b.quoter.column column ++ " IN (" ++ ", ".intercalate fields ++ ")") ∧
    fields.filter (· ≠ "") = scalars.map Value.literal ∧
    ("" ∈ fields ↔ Value.anyEmptyList spread = true) ∧
    (b.pairClause column (.list items) = .ok (b.membership column scalars) ↔
      items = [] ∨
      b.expressions.BuildsLists ∧ scalars ≠ [] ∧ Value.anyEmptyList spread = false) := by
  intro spread fields scalars
  have hscalars : fields.filter (· ≠ "") = scalars.map Value.literal := by
    rw [Value.filter_itemFields, Value.itemScalars_spread]
  have hgap : "" ∈ fields ↔ Value.anyEmptyList spread = true :=
    Value.empty_mem_itemFields_iff spread
  refine ⟨b.conditionText_hash_singleton column (.list items),
    fun _ => StatementBuilder.pairClause_list_eq_ok_iff hguards, hscalars, hgap, ?_⟩
  rw [StatementBuilder.pairClause_list_eq_ok_iff hguards]
  by_cases hnil : items = []
  · simp [hnil, scalars, StatementBuilder.membership, Value.itemScalars]
  · have htext := b.eq_membership_iff column hscalars
    rw [hgap, Bool.not_eq_true] at htext
    simp only [hnil, false_and, false_or, ne_eq, not_false_eq_true, true_and]
    rw [eq_comm, htext]

/-- A list with lists in it that all have values comes to the membership of these. -/
theorem pairClause_list_nestedLists :
    let b : StatementBuilder := {}
    let items := [Value.list [.text "a", .list [.null]], .bool true]
    b.expressions.GuardsLists ∧ Value.anyEmptyList (items.flatMap ExpressionBuilder.spread) = false ∧
      b.conditionText (.hash [("id", .list items)]) = .ok "\x60id\x60 IN ('a', NULL, 1)" := by
  intro b items
  have hguards : b.expressions.GuardsLists := ExpressionRegistry.guardsLists_usual
  obtain ⟨hcondition, -, -, -, hiff⟩ := pairClause_list_iff b hguards "id" items
  have hclause : b.pairClause "id" (.list items) =
      .ok (b.membership "id" (Value.itemScalars items)) :=
    hiff.2 (.inr ⟨ExpressionRegistry.buildsLists_usual, by decide, by decide⟩)
  refine ⟨hguards, by decide, hcondition.trans (hclause.trans (congrArg Except.ok ?_))⟩
  decide +kernel

/-- A list of nothing but an empty list has no scalar, and its conjunct is no `0=1` but an empty
list after `IN`. A deeper one leaves a field empty. -/
theorem membership_of_emptiedLists :
    let b : StatementBuilder := {}
    let emptied := [Value.list []]
    let gapped := [Value.list [.list []], .bool true]
    b.conditionText (.hash [("id", .list emptied)]) = .ok "\x60id\x60 IN ()" ∧
      b.membership "id" (Value.itemScalars emptied) = "0=1" ∧
      b.conditionText (.hash [("id", .list gapped)]) = .ok "\x60id\x60 IN (, 1)" ∧
      b.membership "id" (Value.itemScalars gapped) = "\x60id\x60 IN (1)" := by
  have hclause : ∀ items text, items ≠ [] →
      "\x60id\x60 IN (" ++ ", ".intercalate
        (Value.itemFields (items.flatMap ExpressionBuilder.spread)) ++ ")" = text →
      StatementBuilder.conditionText {} (.hash [("id", .list items)]) = .ok text := by
    rintro items text hne rfl
    rw [StatementBuilder.conditionText_hash_singleton]
    exact StatementBuilder.pairClause_list_eq ExpressionRegistry.buildsLists_usual hne
  refine ⟨hclause _ _ (by simp) ?_, ?_, hclause _ _ (by simp) ?_, ?_⟩ <;> decide +kernel

end SchemaMigration
