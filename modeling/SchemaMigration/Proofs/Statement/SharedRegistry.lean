import Mathlib.Data.List.Induction
import SchemaMigration.Proofs.Statement.KeyedTables
import SchemaMigration.Statement.Row

/-!
# Shared registries of expressions

One registry serves any number of statement builders while builders of expressions are still being
registered. Every expression is rendered by the builder that was first registered for its class,
whichever statement it stands in. All else that is asked of the registry leaves it as it is.

## Main definitions

* `Rendering` — what needs expressions to be rendered: an expression itself, a deletion, or an
  insertion of rows.
* `Rendering.expressions`, `Rendering.assemble` — the expressions that are rendered, and what is put
  together from them.
* `ExpressionRegistry.Call`, `ExpressionRegistry.after` — the calls of a registry, and the registry
  after some.
* `ExpressionRegistry.first?` — the builder of the first registration of a class.

The main result is `ExpressionRegistry.first_registration_wins`.
-/

namespace SchemaMigration

/-- Something that is made with a registry of expressions. Statement builders share the registry:
their own one does not matter. -/
inductive Rendering where
  | build (e : Expression) (params : List Value)
  | delete (b : StatementBuilder) (table : String) (c : Condition)
  | batchInsert (b : StatementBuilder) (table : String) (columns : List String)
      (rows : List (List Value))

/-- What is made. -/
inductive Rendering.Result where
  | expression (built : BuiltExpression)
  | statement (sql : String)

/-! ## The expressions of a rendering -/

/-- The expression of a list of values. -/
def Expression.ofList (vs : List Value) : Expression × List Value := (.array vs false, [])

namespace Condition

/-- The lists among the values of pairs. The empty list is not rendered. -/
def lists : List (String × Value) → List (Expression × List Value)
  | [] => []
  | (_, .list (v :: vs)) :: pairs => Expression.ofList (v :: vs) :: lists pairs
  | _ :: pairs => lists pairs

/-- The expressions of a condition, with their further parameters. -/
def expressions : Condition → List (Expression × List Value)
  | .sql _ => []
  | .hash fields => lists fields
  | .array list => lists list.pairs
  | .expression e params => [(e, params)]

/-- The conjuncts of pairs, from the texts of the lists among their values. -/
def clauses (q : Quoter) : List (String × Value) → List String → List String
  | [], _ => []
  | (column, .null) :: pairs, texts => (q.column column ++ " IS NULL") :: clauses q pairs texts
  | (_, .list []) :: pairs, texts => "0=1" :: clauses q pairs texts
  | (column, .list (_ :: _)) :: pairs, texts =>
    (q.column column ++ " IN (" ++ texts.headD "" ++ ")") :: clauses q pairs texts.tail
  | (column, v) :: pairs, texts =>
    (q.column column ++ " = " ++ v.literal) :: clauses q pairs texts

/-- The text of a condition, from the texts of its expressions. -/
def assemble (q : Quoter) (texts : List String) : Condition → String
  | .sql s => Text.trim s
  | .hash fields => StatementBuilder.conjunction (clauses q fields texts)
  | .array list =>
    let pairs := StatementBuilder.conjunction (clauses q list.pairs texts)
    StatementBuilder.conjunction
      (StatementBuilder.itemClauses list ++ if pairs.isEmpty then [] else [pairs])
  | .expression _ _ => texts.headD ""

end Condition

namespace Rendering

/-- The expressions that are rendered, with their further parameters. -/
def expressions : Rendering → List (Expression × List Value)
  | .build e params => [(e, params)]
  | .delete _ _ c => c.expressions
  | .batchInsert _ _ _ rows => (rows.filter (!·.isEmpty)).map Expression.ofList

/-- What is put together from the expressions. Of the statement builder only the quoter counts. -/
def assemble (built : List BuiltExpression) : Rendering → Result
  | .build _ _ => .expression (built.headD default)
  | .delete b table c =>
    let text := c.assemble b.quoter (built.map BuiltExpression.interpolate)
    .statement ("DELETE FROM " ++ b.quoter.table table ++
      if text.isEmpty then "" else " WHERE " ++ text)
  | .batchInsert b table columns _ =>
    let rows := built.map fun row => "(" ++ row.interpolate ++ ")"
    .statement <|
      if rows.isEmpty then ""
      else "INSERT INTO " ++ b.quoter.table table ++ b.insertColumns columns ++ " VALUES " ++
        ", ".intercalate rows

end Rendering

namespace ExpressionRegistry

/-- The SQL of expressions with their further parameters, in order, up to the first that fails. -/
def buildAll (r : ExpressionRegistry) (es : List (Expression × List Value)) :
    Except QueryError (List BuiltExpression) :=
  es.mapM fun p => r.build p.1 p.2

/-- What comes of a rendering. -/
def render (r : ExpressionRegistry) : Rendering → Except QueryError Rendering.Result
  | .build e params => (r.build e params).map .expression
  | .delete b table c => ({ b with expressions := r }.delete table c).map .statement
  | .batchInsert b table columns rows =>
    ({ b with expressions := r }.batchInsert table columns rows).map .statement

variable (r : ExpressionRegistry) (b : StatementBuilder)

theorem buildAll_cons (e : Expression) (params : List Value)
    (es : List (Expression × List Value)) :
    r.buildAll ((e, params) :: es) = do
      let built ← r.build e params
      let rest ← r.buildAll es
      return built :: rest :=
  List.mapM_cons

theorem ne_nil_of_buildAll {r : ExpressionRegistry} {p : Expression × List Value}
    {ps : List (Expression × List Value)} {built : List BuiltExpression}
    (h : r.buildAll (p :: ps) = .ok built) : built ≠ [] := by
  obtain ⟨first, -, h⟩ := bind_eq_ok_iff.1 ((buildAll_cons r p.1 p.2 ps).symm.trans h)
  obtain ⟨rest, -, h⟩ := bind_eq_ok_iff.1 h
  cases h
  exact List.cons_ne_nil first rest

theorem pairClauses_eq (pairs : List (String × Value)) :
    { b with expressions := r }.pairClauses pairs =
      (r.buildAll (Condition.lists pairs)).map fun built =>
        Condition.clauses b.quoter pairs (built.map BuiltExpression.interpolate) := by
  induction pairs with
  | nil => rfl
  | cons p pairs ih =>
    obtain ⟨column, v⟩ := p
    have hplain (clause : String) (x : Except QueryError (List BuiltExpression))
        (f : List BuiltExpression → List String) :
        (do let clauses ← x.map f; return clause :: clauses) =
          x.map fun built => clause :: f built := by
      cases x <;> rfl
    rw [StatementBuilder.pairClauses, ih]
    cases v with
    | list items =>
      cases items with
      | nil => exact hplain _ _ _
      | cons v vs =>
        rw [Condition.lists, Expression.ofList, buildAll_cons, StatementBuilder.pairClause,
          listText]
        · cases r.build (.array (v :: vs) false) [] with
          | error e => rfl
          | ok built => cases r.buildAll (Condition.lists pairs) <;> rfl
        · exact fun h => by cases h
    | _ => exact hplain _ _ _

theorem conditionText_eq (c : Condition) :
    { b with expressions := r }.conditionText c =
      (r.buildAll c.expressions).map fun built =>
        c.assemble b.quoter (built.map BuiltExpression.interpolate) := by
  cases c with
  | sql s => rfl
  | hash fields =>
    rw [StatementBuilder.conditionText, StatementBuilder.pairsText, pairClauses_eq,
      Condition.expressions]
    cases r.buildAll (Condition.lists fields) <;> rfl
  | array list =>
    rw [StatementBuilder.conditionText, StatementBuilder.pairsText, pairClauses_eq,
      Condition.expressions]
    cases r.buildAll (Condition.lists list.pairs) <;> rfl
  | expression e params =>
    rw [StatementBuilder.conditionText, Condition.expressions, buildAll_cons]
    cases r.build e params <;> rfl

theorem rowTexts_eq_map (rows : List (List Value)) :
    { b with expressions := r }.rowTexts rows =
      (r.buildAll (rows.map Expression.ofList)).map fun built =>
        built.map fun row => "(" ++ row.interpolate ++ ")" := by
  induction rows with
  | nil => rfl
  | cons row rows ih =>
    rw [StatementBuilder.rowTexts, ih, List.map_cons, Expression.ofList, buildAll_cons, listText]
    cases r.build (.array row false) [] with
    | error e => rfl
    | ok built => cases r.buildAll (rows.map Expression.ofList) <;> rfl

/-- A rendering fails where its first expression fails, and is otherwise put together from all of
them. -/
theorem render_eq (u : Rendering) :
    r.render u = (r.buildAll u.expressions).map fun built => u.assemble built := by
  cases u with
  | build e params =>
    rw [render, Rendering.expressions, buildAll_cons]
    cases r.build e params <;> rfl
  | delete b table c =>
    rw [render, StatementBuilder.delete, StatementBuilder.whereText, conditionText_eq,
      Rendering.expressions]
    cases r.buildAll c.expressions with
    | error e => rfl
    | ok built =>
      refine congrArg (Except.ok <| Rendering.Result.statement ·) ?_
      cases htext : (c.assemble b.quoter (built.map BuiltExpression.interpolate)).isEmpty with
      | true => simp [StatementBuilder.write, Part.write, String.join]
      | false =>
        have hspace (text : String) : " " ++ ("WHERE " ++ text) = " WHERE " ++ text := by
          rw [← String.append_assoc]
          rfl
        simp [StatementBuilder.write, Part.write, String.join, String.append_assoc, hspace]
  | batchInsert b table columns rows =>
    rw [render, StatementBuilder.batchInsert, Rendering.expressions]
    cases rows.filter (!·.isEmpty) with
    | nil => rfl
    | cons row rows' =>
      dsimp only
      rw [rowTexts_eq_map]
      cases hbuilt : r.buildAll ((row :: rows').map Expression.ofList) with
      | error e => rfl
      | ok built =>
        have hne := ne_nil_of_buildAll hbuilt
        have hcolumns :
            { b with expressions := r }.insertColumns columns = b.insertColumns columns := rfl
        refine congrArg (Except.ok <| Rendering.Result.statement ·) ?_
        simp [hne, hcolumns, StatementBuilder.write, Part.write, String.join, String.append_assoc]

/-! ## Unknown classes -/

end ExpressionRegistry

/-- Holds of a builder that never calls a class unknown. It is documented to refuse expressions that
are not of its class as mismatches. -/
def ExpressionBuilder.KnowsClasses (b : ExpressionBuilder) : Prop :=
  ∀ e params cls, b.build e params ≠ .error (.unknownClass cls)

theorem ExpressionBuilder.knowsClasses_array : array.KnowsClasses := by
  intro e params cls
  cases e <;> simp [array]

namespace ExpressionRegistry

/-- Holds if all builders leave it to the registry to call classes unknown. -/
def KnowsClasses (r : ExpressionRegistry) : Prop :=
  ∀ cls b, r.builders.get? cls = some b → b.KnowsClasses

variable {r : ExpressionRegistry} {cls : String}

theorem build_eq_unknown_iff (hr : r.KnowsClasses) (e : Expression) (params : List Value) :
    r.build e params = .error (.unknownClass cls) ↔
      e.cls = cls ∧ r.builders.get? cls = none := by
  rw [build]
  cases hbuilder : r.builders.get? e.cls with
  | none =>
    simp only [Except.error.injEq, QueryError.unknownClass.injEq]
    exact ⟨fun h => ⟨h, h ▸ hbuilder⟩, And.left⟩
  | some builder =>
    refine iff_of_false (hr e.cls builder hbuilder e params cls) ?_
    rintro ⟨rfl, hnone⟩
    rw [hbuilder] at hnone
    cases hnone

theorem exists_build_of_buildAll {es : List (Expression × List Value)} {e : QueryError}
    (h : r.buildAll es = .error e) : ∃ p ∈ es, r.build p.1 p.2 = .error e := by
  induction es with
  | nil => cases h
  | cons p ps ih =>
    rw [buildAll_cons] at h
    cases hp : r.build p.1 p.2 with
    | error e' =>
      rw [hp] at h
      cases h
      exact ⟨p, List.mem_cons_self, hp⟩
    | ok built =>
      cases hps : r.buildAll ps with
      | error e' =>
        rw [hp, hps] at h
        cases h
        obtain ⟨p', hmem, hp'⟩ := ih hps
        exact ⟨p', List.mem_cons_of_mem p hmem, hp'⟩
      | ok rest =>
        rw [hp, hps] at h
        cases h

/-- The error is that of the first expression that fails. -/
theorem mapM_eq_error_iff {α β : Type} {f : α → Except QueryError β} {as : List α}
    {e : QueryError} :
    as.mapM f = .error e ↔
      ∃ before a after, as = before ++ a :: after ∧ (∀ q ∈ before, ∃ b, f q = .ok b) ∧
        f a = .error e := by
  induction as with
  | nil => simp [List.mapM_nil, pure, Except.pure]
  | cons a as ih =>
    rw [exists_first_cons_iff, ← ih, List.mapM_cons]
    cases ha : f a with
    | error e' => simp [bind, Except.bind]
    | ok b => cases as.mapM f <;> simp [bind, Except.bind, pure, Except.pure]

/-- Expressions of one class fail for it together. -/
theorem buildAll_eq_unknown_iff (hr : r.KnowsClasses) {es : List (Expression × List Value)}
    {k : String} (hclass : ∀ p ∈ es, p.1.cls = k) :
    r.buildAll es = .error (.unknownClass cls) ↔
      ∃ p ∈ es, p.1.cls = cls ∧ r.builders.get? cls = none := by
  constructor
  · intro h
    obtain ⟨p, hmem, hp⟩ := exists_build_of_buildAll h
    exact ⟨p, hmem, (build_eq_unknown_iff hr p.1 p.2).1 hp⟩
  · rintro ⟨p, hmem, hp, hnone⟩
    cases es with
    | nil => cases hmem
    | cons first rest =>
      have hfirst : first.1.cls = cls := by
        rw [hclass first List.mem_cons_self, ← hclass p hmem, hp]
      rw [buildAll_cons, (build_eq_unknown_iff hr first.1 first.2).2 ⟨hfirst, hnone⟩]
      rfl

end ExpressionRegistry

theorem Condition.cls_of_mem_lists (pairs : List (String × Value)) :
    ∀ p ∈ lists pairs, p.1.cls = arrayClass := by
  fun_induction lists pairs with
  | case1 => simp
  | case2 column v vs pairs ih => exact List.forall_mem_cons.2 ⟨rfl, ih⟩
  | case3 pair pairs _ ih => exact ih

/-- The expressions of one rendering have one class. -/
theorem Rendering.exists_cls (u : Rendering) : ∃ k, ∀ p ∈ u.expressions, p.1.cls = k := by
  cases u with
  | build e params => exact ⟨e.cls, by simp [expressions]⟩
  | delete b table c =>
    cases c with
    | sql s => exact ⟨arrayClass, by simp [expressions, Condition.expressions]⟩
    | hash fields => exact ⟨arrayClass, Condition.cls_of_mem_lists fields⟩
    | array list => exact ⟨arrayClass, Condition.cls_of_mem_lists list.pairs⟩
    | expression e params => exact ⟨e.cls, by simp [expressions, Condition.expressions]⟩
  | batchInsert b table columns rows =>
    refine ⟨arrayClass, fun p hp => ?_⟩
    obtain ⟨row, -, rfl⟩ := List.mem_map.1 hp
    rfl

namespace ExpressionRegistry

theorem render_eq_unknown_iff {r : ExpressionRegistry} (hr : r.KnowsClasses) {u : Rendering}
    {cls : String} :
    r.render u = .error (.unknownClass cls) ↔
      ∃ p ∈ u.expressions, p.1.cls = cls ∧ r.builders.get? cls = none := by
  obtain ⟨k, hk⟩ := u.exists_cls
  rw [← buildAll_eq_unknown_iff hr hk, render_eq]
  cases r.buildAll u.expressions <;> simp [Except.map]

/-! ## Calls -/

inductive Call where
  | register (b : ExpressionBuilder)
  | contains (cls : String)
  | render (u : Rendering)

inductive Reply where
  | registered
  | contains (known : Bool)
  | rendered (result : Rendering.Result)
  | failed (e : QueryError)

def Reply.ofExcept {α : Type} (f : α → Reply) : Except QueryError α → Reply
  | .ok a => f a
  | .error e => .failed e

def answer (r : ExpressionRegistry) : Call → Reply
  | .register b => .ofExcept (fun _ => .registered) (r.register b)
  | .contains cls => .contains (r.has cls)
  | .render u => .ofExcept .rendered (r.render u)

def next (r : ExpressionRegistry) : Call → ExpressionRegistry
  | .register b => (r.register b).toOption.getD r
  | _ => r

def after (r : ExpressionRegistry) (cs : List Call) : ExpressionRegistry := cs.foldl next r

/-- The builder that a call registers or tries to. -/
def Call.registers? : Call → Option ExpressionBuilder
  | .register b => some b
  | _ => none

/-- The expressions that a call has to render, with their further parameters. -/
def Call.expressions : Call → List (Expression × List Value)
  | .render u => u.expressions
  | _ => []

/-- The builder of the first registration of a class, at the start or by a call. -/
def first? (r : ExpressionRegistry) (cs : List Call) (cls : String) : Option ExpressionBuilder :=
  (r.builders.get? cls).or ((cs.filterMap Call.registers?).find? (·.cls = cls))

/-- The SQL of an expression by the builder of the first registration of its class. -/
def buildByFirst (r : ExpressionRegistry) (cs : List Call) (p : Expression × List Value) :
    Except QueryError BuiltExpression :=
  match r.first? cs p.1.cls with
  | some b => b.build p.1 p.2
  | none => .error (.unknownClass p.1.cls)

variable {r : ExpressionRegistry} {cs : List Call}

theorem after_append (r : ExpressionRegistry) (cs more : List Call) :
    r.after (cs ++ more) = (r.after cs).after more :=
  List.foldl_append

theorem first?_append (cs more : List Call) (cls : String) :
    r.first? (cs ++ more) cls =
      (r.first? cs cls).or ((more.filterMap Call.registers?).find? (·.cls = cls)) := by
  rw [first?, List.filterMap_append, List.find?_append, ← Option.or_assoc, first?]

/-- A registration counts if the class has none. -/
theorem get?_next (r : ExpressionRegistry) (c : Call) (cls : String) :
    (r.next c).builders.get? cls =
      (r.builders.get? cls).or (([c].filterMap Call.registers?).find? (·.cls = cls)) := by
  cases c with
  | contains | render => simp [next, Call.registers?]
  | register b =>
    have hfind : ([Call.register b].filterMap Call.registers?).find? (·.cls = cls) =
        if b.cls = cls then some b else none := by
      by_cases hcls : b.cls = cls <;> simp [Call.registers?, hcls]
    rw [hfind]
    cases hget : r.builders.get? b.cls with
    | some first =>
      have hkept : r.next (.register b) = r := by
        simp [next, register, has, Dict.has, hget, Except.toOption]
      rw [hkept]
      by_cases hcls : b.cls = cls
      · subst hcls
        simp [hget]
      · simp [hcls]
    | none =>
      have hadded : r.next (.register b) = ⟨r.builders.insert b.cls b⟩ := by
        simp [next, register, has, Dict.has, hget, Except.toOption]
      rw [hadded, Dict.get?_insert]
      by_cases hcls : b.cls = cls
      · subst hcls
        simp [hget]
      · simp [hcls]

theorem get?_after (r : ExpressionRegistry) (cs : List Call) (cls : String) :
    (r.after cs).builders.get? cls = r.first? cs cls := by
  induction cs using List.reverseRecOn with
  | nil => simp [after, first?]
  | append_singleton cs c ih =>
    rw [after_append, first?_append, ← ih]
    exact get?_next (r.after cs) c cls

theorem render_after (u : Rendering) :
    (r.after cs).render u =
      (u.expressions.mapM (r.buildByFirst cs)).map fun built => u.assemble built := by
  have hbuild : (fun p : Expression × List Value => (r.after cs).build p.1 p.2) =
      r.buildByFirst cs := by
    funext p
    cases hfirst : r.first? cs p.1.cls <;> simp [build, get?_after, buildByFirst, hfirst]
  rw [render_eq, buildAll, hbuild]

theorem register_after (b : ExpressionBuilder) :
    (r.after cs).register b =
      if (r.first? cs b.cls).isSome then .error (.duplicateBuilder b.cls)
      else .ok ⟨(r.after cs).builders.insert b.cls b⟩ := by
  rw [register, has, Dict.has, get?_after]

/-- A call that registers nothing leaves the registry as it is. -/
theorem next_eq_self {c : Call} (h : c.registers? = none ∨ ∃ e, r.answer c = .failed e) :
    r.next c = r := by
  cases c with
  | contains | render => rfl
  | register b =>
    obtain h | ⟨e, h⟩ := h
    · cases h
    · rw [answer] at h
      rw [next]
      cases hr : r.register b with
      | ok r' =>
        rw [hr] at h
        cases h
      | error e' => rfl

/-- What calls answer after others, and what is left of them. -/
structure FirstWins (r : ExpressionRegistry) (cs : List Call) : Prop where
  /-- A class is rendered by the builder of its first registration, in every statement and for every
  statement builder. -/
  renders : ∀ u, (r.after cs).answer (.render u) =
    .ofExcept (fun built => .rendered (u.assemble built))
      (u.expressions.mapM (r.buildByFirst cs))
  /-- The first registration of a class stays the first. -/
  stays : ∀ {cls b} more, r.first? cs cls = some b → r.first? (cs ++ more) cls = some b
  contains : ∀ cls, (r.after cs).answer (.contains cls) = .contains (r.first? cs cls).isSome
  registers : ∀ b, (r.after cs).answer (.register b) =
    if (r.first? cs b.cls).isSome then .failed (.duplicateBuilder b.cls) else .registered
  /-- A rendering fails with the error of its first expression that fails. -/
  fails : ∀ {u e}, (r.after cs).answer (.render u) = .failed e ↔
    ∃ before p rest, u.expressions = before ++ p :: rest ∧
      (∀ q ∈ before, ∃ built, r.buildByFirst cs q = .ok built) ∧ r.buildByFirst cs p = .error e
  /-- A class is unknown to the calls that have to render an expression of it before it is
  registered, and to no other unless a builder calls it so. -/
  unknown : (∀ cls b, r.first? cs cls = some b → b.KnowsClasses) →
    ∀ {c cls}, (r.after cs).answer c = .failed (.unknownClass cls) ↔
      ∃ p ∈ c.expressions, p.1.cls = cls ∧ r.first? cs cls = none
  /-- What fails, and what registers nothing, might as well not have been called. -/
  traceless : ∀ {c}, (c.registers? = none ∨ ∃ e, (r.after cs).answer c = .failed e) →
    ∀ more, r.after (cs ++ c :: more) = r.after (cs ++ more)

/-- Whatever a registry had at the start, the first registration of each class counts. -/
theorem first_registration_wins (r : ExpressionRegistry) (cs : List Call) : r.FirstWins cs where
  renders u := by
    rw [answer, render_after]
    cases u.expressions.mapM (r.buildByFirst cs) <;> rfl
  stays more h := by rw [first?_append, h, Option.some_or]
  contains cls := by rw [answer, has, Dict.has, get?_after]
  registers b := by
    rw [answer, register_after]
    split <;> rfl
  fails {u e} := by
    rw [answer, render_after, ← mapM_eq_error_iff]
    cases u.expressions.mapM (r.buildByFirst cs) <;> simp [Except.map, Reply.ofExcept]
  unknown hknows {c cls} := by
    have hr : (r.after cs).KnowsClasses := fun cls b hb => hknows cls b (get?_after r cs cls ▸ hb)
    cases c with
    | register b =>
      rw [answer, register_after]
      split <;> simp [Reply.ofExcept, Call.expressions]
    | contains => simp [answer, Call.expressions]
    | render u =>
      rw [Call.expressions, ← get?_after, ← render_eq_unknown_iff hr, answer]
      cases (r.after cs).render u <;> simp [Reply.ofExcept]
  traceless {c} h more := by
    have hsame : r.after (cs ++ [c]) = r.after cs := by
      rw [after_append]
      exact next_eq_self h
    rw [List.append_cons, after_append, hsame, after_append]

/-- A builder of a caller that makes one text of whatever it is given. -/
def textBuilder (cls sql : String) : ExpressionBuilder := ⟨cls, fun _ _ => .ok ⟨sql, []⟩⟩

/-- Of two builders of one class the second fails to be registered, and the first makes the text. -/
theorem first_registration_wins_twoBuilders :
    let cs := [Call.register (textBuilder "Raw" "first"), .register (textBuilder "Raw" "second")]
    let delete (cls : String) : Call := .render (.delete {} "t" (.expression (.other cls "" []) []))
    (∀ cls b, first? {} cs cls = some b → b.KnowsClasses) ∧
      (after {} (cs.take 1)).answer (.register (textBuilder "Raw" "second")) =
        .failed (.duplicateBuilder "Raw") ∧
      (after {} cs).answer (delete "Raw") =
        .rendered (.statement "DELETE FROM \x60t\x60 WHERE first") ∧
      (after {} cs).answer (delete "Other") = .failed (.unknownClass "Other") := by
  intro cs delete
  have hknows : ∀ cls b, first? {} cs cls = some b → b.KnowsClasses := by
    intro cls b hb e params k
    have hmem := List.mem_of_find?_eq_some hb
    simp only [cs, Call.registers?, List.filterMap_cons, List.filterMap_nil, List.mem_cons,
      List.not_mem_nil, or_false] at hmem
    rcases hmem with rfl | rfl <;> simp [textBuilder]
  have hwins := first_registration_wins {} cs
  refine ⟨hknows, (first_registration_wins {} (cs.take 1)).registers _,
    (hwins.renders _).trans (by rfl), (hwins.unknown hknows).2 ?_⟩
  exact ⟨(.other "Other" "" [], []), by simp [delete, Call.expressions, Rendering.expressions,
    Condition.expressions], rfl, by rfl⟩

end ExpressionRegistry

end SchemaMigration
