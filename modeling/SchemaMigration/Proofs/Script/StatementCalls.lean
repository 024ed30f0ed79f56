import SchemaMigration.Proofs.Script.Confinement

/-!
# Calls of statement functions

A statement function, of the module or of a connection, makes at most one statement. The statement
that it answers is the one that it adds to the buffer that is registered at that moment; a call that
fails changes nothing. Over any calls, a buffer has what it had and then the statements that calls
answered while it was registered.

## Main definitions

* `Function.operation?`, `Interpreter.request?` — statement functions, and what a call asks for.
* `StatementCall` — how a call goes, case by case.
* `StatementRun` — calls one after the other, with anything in between that leaves buffers alone.
* `StatementRun.statements_written` — what calls do to buffers.
-/

namespace SchemaMigration

def Function.operation? : Function → Option Operation
  | .statement op | .connectionStatement op => some op
  | _ => none

/-- What a call of a statement function asks for: the builder that makes the statement, and the
arguments of the statement. The first argument of a method must be a connection. -/
def Interpreter.request? (i : Interpreter) (args : List ScriptValue) :
    Function → Option (StatementBuilder × List ScriptValue)
  | .statement _ => some (i.context.builder, args)
  | .connectionStatement _ =>
    match args with
    | .connection place :: rest => i.session.connections[place]?.map fun c => (c.builder, rest)
    | _ => none
  | _ => none

/-- The statement that a builder makes of the arguments of a call. -/
def Interpreter.statementOf (i : Interpreter) (op : Operation) (b : StatementBuilder)
    (args : List ScriptValue) : Except QueryError String :=
  op.statement b (i.session.arguments b.quoter none args)

/-! ## One call -/

/-- How the call of a statement function goes. -/
inductive StatementCall (i : Interpreter) (f : Function) (op : Operation)
    (args : List ScriptValue) : Except ScriptFault ScriptValue × Interpreter → Prop
  | notConnection (hreq : i.request? args f = none) :
      StatementCall i f op args (.error .argument, i)
  | missingBuffer {b rest} (hreq : i.request? args f = some (b, rest))
      (hid : i.session.registered? = none) : StatementCall i f op args (.error .missingBuffer, i)
  | rejected {b rest id e} (hreq : i.request? args f = some (b, rest))
      (hid : i.session.registered? = some id) (hs : i.statementOf op b rest = .error e) :
      StatementCall i f op args (.error (.query e), i)
  | empty {b rest id} (hreq : i.request? args f = some (b, rest))
      (hid : i.session.registered? = some id) (hs : i.statementOf op b rest = .ok "") :
      StatementCall i f op args (.ok (.ofString ""), i)
  | made {b rest id sql} (hreq : i.request? args f = some (b, rest))
      (hid : i.session.registered? = some id) (hs : i.statementOf op b rest = .ok sql)
      (hne : sql ≠ "") :
      StatementCall i f op args
        (.ok (.ofString sql), { i with session := i.session.issue id sql })

namespace Eval

variable {i : Interpreter} {f : Function} {op : Operation} {args : List ScriptValue}

/-- Making a statement answers it as a text. -/
theorem statementCall_of_request {b : StatementBuilder} {rest : List ScriptValue}
    (hreq : i.request? args f = some (b, rest)) :
    StatementCall i f op args
      (runIn i (do return ScriptValue.ofString (← statement b op rest))) := by
  simp only [statement, runIn_bind, runIn_session]
  cases hid : i.session.registered? with
  | none => exact .missingBuffer hreq hid
  | some id =>
    dsimp only
    cases hs : op.statement b (i.session.arguments b.quoter none rest) with
    | error e => exact .rejected hreq hid hs
    | ok sql =>
      by_cases he : sql = ""
      · subst he
        exact .empty hreq hid hs
      · have hfalse : sql.isEmpty = false := by simpa using he
        simp only [hfalse, Bool.false_eq_true, if_false, runIn_bind, runIn_update, runIn_pure]
        exact .made hreq hid hs he

theorem runIn_connectionSelf (place : Nat) (rest : List ScriptValue) :
    runIn i (connectionSelf (.connection place :: rest)) =
      match i.session.connections[place]? with
      | some c => (.ok c, i)
      | none => (.error .argument, i) := by
  simp only [connectionSelf, runIn_bind, runIn_session]
  cases i.session.connections[place]? <;> rfl

/-- Every call of a statement function is one of the cases. -/
theorem statementCall (hf : f.operation? = some op) (invoke : List Step → Eval Unit)
    (args : List ScriptValue) :
    StatementCall i f op args (runIn i (apply invoke args f)) := by
  cases f with
  | statement op' =>
    cases hf
    rw [apply, runIn_bind, runIn_get]
    exact statementCall_of_request rfl
  | connectionStatement op' =>
    cases hf
    rw [apply, runIn_bind]
    cases args with
    | nil => exact .notConnection rfl
    | cons self rest =>
      cases self with
      | connection place =>
        rw [runIn_connectionSelf]
        cases hc : i.session.connections[place]? with
        | none => exact .notConnection (by simp [Interpreter.request?, hc])
        | some c => exact statementCall_of_request (by simp [Interpreter.request?, hc])
      | _ => exact .notConnection rfl
  | _ => cases hf

end Eval

/-- A statement that is not empty is answered and issued. -/
theorem StatementCall.eq_of_statementOf {i : Interpreter} {f : Function} {op : Operation}
    {args rest : List ScriptValue} {r : Except ScriptFault ScriptValue × Interpreter}
    {b : StatementBuilder} {id : BufferId} {sql : String} (h : StatementCall i f op args r)
    (hreq : i.request? args f = some (b, rest)) (hid : i.session.registered? = some id)
    (hs : i.statementOf op b rest = .ok sql) (hne : sql ≠ "") :
    r = (.ok (.ofString sql), { i with session := i.session.issue id sql }) := by
  cases h with
  | notConnection | missingBuffer | rejected | empty => simp_all
  | made hreq' hid' hs' =>
    obtain ⟨rfl, rfl⟩ := Prod.mk.inj (Option.some.inj (hreq.symm.trans hreq'))
    obtain rfl := Option.some.inj (hid.symm.trans hid')
    obtain rfl := Except.ok.inj (hs.symm.trans hs')
    rfl

/-! ## Buffers -/

/-- What a call adds to the registered buffer, by what it answers: a statement with a semicolon and
a line end, or nothing for an empty one. -/
def ScriptValue.addition : ScriptValue → String
  | .text (.valid sql) => if sql = "" then "" else BufferStore.statementText sql
  | _ => ""

/-- What is said of a call: the buffer that was registered, and what came of the call. -/
structure CallRecord where
  registered? : Option BufferId
  result : Except ScriptFault ScriptValue

/-- What a call added to a buffer. -/
def CallRecord.addedTo (c : CallRecord) (id : BufferId) : String :=
  match c.result with
  | .ok v => if c.registered? = some id then v.addition else ""
  | .error _ => ""

namespace StatementCall

variable {i j : Interpreter} {f : Function} {op : Operation} {args : List ScriptValue}
  {r : Except ScriptFault ScriptValue}

theorem has_iff (h : StatementCall i f op args (r, j)) (id : BufferId) :
    j.session.buffers.Has id ↔ i.session.buffers.Has id := by
  cases h with
  | made => exact BufferStore.has_modify
  | _ => exact Iff.rfl

/-- A call adds to a buffer what is said of it. -/
theorem text_eq (h : StatementCall i f op args (r, j)) {id : BufferId}
    (hid : i.session.buffers.Has id) :
    j.session.buffers.text id =
      i.session.buffers.text id ++ CallRecord.addedTo ⟨i.session.registered?, r⟩ id := by
  cases h with
  | notConnection | missingBuffer | rejected => exact (String.append_empty).symm
  | empty => simp [CallRecord.addedTo, ScriptValue.addition, ScriptValue.ofString]
  | @made b rest registered sql _ hregistered _ hne =>
    have htext : (i.session.issue registered sql).buffers.text id =
        (i.session.buffers.writeStatement registered sql).text id := rfl
    simp only [htext, CallRecord.addedTo, hregistered, ScriptValue.addition, ScriptValue.ofString,
      if_neg hne]
    by_cases he : registered = id
    · subst he
      rw [BufferStore.writeStatement, BufferStore.text_write_self hid, if_pos rfl]
    · rw [BufferStore.writeStatement, BufferStore.text_write_of_ne _ he, if_neg (by simpa using he),
        String.append_empty]

end StatementCall

/-! ## Runs -/

/-- Calls of statement functions from a state on, one after the other, with what is said of them. In
between anything may happen that leaves what buffers hold: other buffers may be made and registered,
and objects made and changed. -/
inductive StatementRun (i₀ : Interpreter) : List CallRecord → Interpreter → Prop
  | start : StatementRun i₀ [] i₀
  | call {cs i f op} (h : StatementRun i₀ cs i) (hf : f.operation? = some op)
      (invoke : List Step → Eval Unit) (args : List ScriptValue) :
      StatementRun i₀ (cs ++ [⟨i.session.registered?, (Eval.runIn i (Eval.apply invoke args f)).1⟩])
        (Eval.runIn i (Eval.apply invoke args f)).2
  | other {cs i j} (h : StatementRun i₀ cs i)
      (hj : ∀ id, i.session.buffers.Has id →
        j.session.buffers.Has id ∧ j.session.buffers.text id = i.session.buffers.text id) :
      StatementRun i₀ cs j

namespace StatementRun

variable {i₀ i : Interpreter} {cs : List CallRecord}

/-- A buffer has what it had, and then what the calls added. -/
theorem text_eq (h : StatementRun i₀ cs i) {id : BufferId} (hid : i₀.session.buffers.Has id) :
    i.session.buffers.Has id ∧
      i.session.buffers.text id =
        i₀.session.buffers.text id ++ String.join (cs.map (·.addedTo id)) := by
  induction h with
  | start => exact ⟨hid, by simp⟩
  | @call cs i f op _ hf invoke args ih =>
    obtain ⟨hhas, htext⟩ := ih
    have hcall := Eval.statementCall (i := i) hf invoke args
    generalize Eval.runIn i (Eval.apply invoke args f) = r at hcall ⊢
    obtain ⟨r, j⟩ := r
    refine ⟨(hcall.has_iff id).2 hhas, ?_⟩
    rw [hcall.text_eq hhas, htext]
    simp [String.join_append, String.append_assoc]
  | other _ hj ih =>
    obtain ⟨hhas, htext⟩ := ih
    exact ⟨(hj id hhas).1, (hj id hhas).2.trans htext⟩

/-- A call of a statement function fails and changes nothing, or answers a statement and adds just
that to the registered buffer. After any calls, a buffer has what it had, and then the statements
that calls answered while it was registered, in order. -/
theorem statements_written (h : StatementRun i₀ cs i) :
    (∀ id, i₀.session.buffers.Has id →
      i.session.buffers.text id =
        i₀.session.buffers.text id ++ String.join (cs.map (·.addedTo id))) ∧
    ∀ f op, f.operation? = some op → ∀ invoke args,
      match Eval.runIn i (Eval.apply invoke args f) with
      | (.error e, j) =>
        j = i ∧
          (e = .argument ∧ i.request? args f = none ∨
            e = .missingBuffer ∧ i.session.registered? = none ∨
            ∃ b rest q, i.request? args f = some (b, rest) ∧ i.statementOf op b rest = .error q ∧
              e = .query q)
      | (.ok v, j) =>
        ∃ b rest sql id, i.request? args f = some (b, rest) ∧ i.statementOf op b rest = .ok sql ∧
          i.session.registered? = some id ∧ v = .ofString sql ∧
          (i.session.buffers.Has id →
            j.session.buffers.text id =
              i.session.buffers.text id ++ if sql = "" then "" else sql ++ ";\n") ∧
          ∀ other, other ≠ id → j.session.buffers.text other = i.session.buffers.text other := by
  refine ⟨fun id hid => (h.text_eq hid).2, fun f op hf invoke args => ?_⟩
  have hcall := Eval.statementCall (i := i) hf invoke args
  generalize Eval.runIn i (Eval.apply invoke args f) = r at hcall ⊢
  cases hcall with
  | notConnection hreq => exact ⟨rfl, .inl ⟨rfl, hreq⟩⟩
  | missingBuffer _ hid => exact ⟨rfl, .inr (.inl ⟨rfl, hid⟩)⟩
  | rejected hreq _ hs => exact ⟨rfl, .inr (.inr ⟨_, _, _, hreq, hs, rfl⟩)⟩
  | empty hreq hid hs =>
    exact ⟨_, _, _, _, hreq, hs, hid, rfl, by simp, fun _ _ => rfl⟩
  | @made b rest id sql hreq hid hs hne =>
    refine ⟨_, _, _, _, hreq, hs, hid, rfl, fun hhas => ?_, fun other hother => ?_⟩
    · rw [if_neg hne]
      exact BufferStore.text_write_self hhas _
    · exact BufferStore.text_write_of_ne _ hother.symm _

end StatementRun

/-- A fresh session with a connection whose tables have a prefix, a condition, and no expression
builders. -/
def prefixedConnection : Interpreter :=
  let c : StatementBuilder :=
    { quoter := ⟨[(NameKind.table.beforeKey, "p_")]⟩, expressions := ⟨[]⟩ }
  let s := Session.create "main"
  { context := { builder := { expressions := ⟨[]⟩ } }
    session :=
      { s with
        connections := #[⟨"other", { name := "other" }, c⟩]
        tables := s.tables.push [(.ofString "a", .table 3)] |>.push [(.int 1, .ofString "x")] } }

/-- Of four calls the second fails, as the condition has no builder, and the third is empty. -/
theorem statements_written_prefixedConnection :
    ∃ cs i, StatementRun prefixedConnection cs i ∧
      cs.map (·.result.toOption.isSome) = [true, false, true, true] ∧
      i.session.buffers.text prefixedConnection.session.ownBuffer =
        "DROP TABLE \x60t\x60;\nDROP TABLE \x60p_u\x60;\n" := by
  let invoke := Eval.invoke Eval.maxCalls
  have run := (StatementRun.start : StatementRun prefixedConnection [] _)
    |>.call (f := .statement .dropTable) rfl invoke [.ofString "t"]
    |>.call (f := .statement .delete) rfl invoke [.ofString "t", .table 2]
    |>.call (f := .statement .execute) rfl invoke [.ofString " ;"]
    |>.call (f := .connectionStatement .dropTable) rfl invoke
      [.connection 0, .ofString "\x7b\x7b%u\x7d\x7d"]
  refine ⟨_, _, run, by decide +kernel, ?_⟩
  rw [run.statements_written.1 prefixedConnection.session.ownBuffer Nat.zero_lt_one]
  decide +kernel

end SchemaMigration
