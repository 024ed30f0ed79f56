import SchemaMigration.Proofs.Connection.CreatedOnce
import SchemaMigration.Proofs.Script.Invariance
import SchemaMigration.Proofs.Script.StatementCalls

/-!
# The default connection

The module makes its statements with the options of the default connection, which are read when the
context is made. A connection has the options that are read when a script first asks for it. In an
environment that stays what it is both are the same options, so that it makes no difference whether
a script calls the module or the default connection.

## Main definitions

* `Interpreter.FromEnvironment` — every connection is the one of the environment.
* `ConnectionRun` — what sessions do in one environment.
* `Eval.callModule`, `Eval.callMethod`, `Eval.callConnection` — ways to call a statement function.
* `ConnectionRun.default_agrees` — the module does what the default connection does.
-/

namespace SchemaMigration

variable {env : Environment} {expressions : ExpressionRegistry}

/-! ## Registries -/

/-- The builder of the module is that of the default connection, with a URL or not. -/
theorem Context.builder_make :
    (Context.make env expressions .usual).builder =
      (Connection.ofEnvironment env expressions defaultConnection).builder := rfl

/-- Every connection of a registry is the one that the environment gives to its name. -/
structure ConnectionRegistry.FromEnvironment (env : Environment)
    (expressions : ExpressionRegistry) (r : ConnectionRegistry) : Prop where
  expressions_eq : r.expressions = expressions
  get?_eq : ∀ {name c}, r.connections.get? name = some c → c = .ofEnvironment env expressions name

namespace ConnectionRegistry.FromEnvironment

variable {r : ConnectionRegistry}

theorem empty : FromEnvironment env expressions { expressions } := ⟨rfl, nofun⟩

/-- What is found, or made on first use, is the connection of the environment. -/
theorem of_get (h : FromEnvironment env expressions r) {name : String} {c : Connection}
    {r' : ConnectionRegistry} {keys : List String} (hget : r.get env name = (.ok c, r', keys)) :
    c = .ofEnvironment env expressions name ∧ FromEnvironment env expressions r' := by
  unfold get at hget
  split at hget
  · next c' hfound =>
    cases hget
    exact ⟨h.get?_eq hfound, h⟩
  · have hnew := connect_read h.expressions_eq env name
    dsimp only at hget
    split at hget
    · cases hget
    · cases hget
      refine ⟨hnew, h.expressions_eq, fun {other c} hc => ?_⟩
      rw [Dict.get?_insert] at hc
      split at hc
      · next he =>
        subst he
        exact (Option.some.inj hc).symm.trans hnew
      · exact h.get?_eq hc

/-- With a URL there is a connection. -/
theorem exists_get (h : FromEnvironment env expressions r) {name : String}
    (hurl : (ConnectionOption.read env name).1.error? = none) :
    ∃ r' keys, r.get env name = (.ok (.ofEnvironment env expressions name), r', keys) := by
  have hok : ∃ c r' keys, r.get env name = (.ok c, r', keys) := by
    unfold get
    split
    · exact ⟨_, _, _, rfl⟩
    · simp only [hurl]
      exact ⟨_, _, _, rfl⟩
  obtain ⟨c, r', keys, hget⟩ := hok
  exact ⟨r', keys, (h.of_get hget).1 ▸ hget⟩

end ConnectionRegistry.FromEnvironment

/-! ## Interpreters -/

theorem Eval.runIn_connect {i : Interpreter} (name : String) :
    runIn i (connect name) =
      match i.context.registry.get i.context.environment name with
      | (.error e, _, _) => (.error (.configuration e), i)
      | (.ok c, registry, _) =>
        (.ok (.connection i.session.connections.size),
          ⟨{ i.context with registry }, (i.session.newConnection c).2⟩) := by
  simp only [connect, runIn_bind, runIn_get]
  generalize i.context.registry.get i.context.environment name = r
  obtain ⟨e | c, registry, keys⟩ := r <;> rfl

/-- Every connection that was made is the one that the environment gives to its name, and the module
makes its statements as the default connection does. -/
structure Interpreter.FromEnvironment (env : Environment) (expressions : ExpressionRegistry)
    (i : Interpreter) : Prop where
  environment_eq : i.context.environment = env
  builder_eq :
    i.context.builder = (Connection.ofEnvironment env expressions defaultConnection).builder
  registry : i.context.registry.FromEnvironment env expressions
  connections : ∀ c ∈ i.session.connections, c = .ofEnvironment env expressions c.name

/-- The environment stays, so that connections made later are like those made before. -/
theorem Interpreter.FromEnvironment.invariant :
    Interpreter.Invariant (Interpreter.FromEnvironment env expressions) where
  session hs h := { h with connections := by rw [hs]; exact h.connections }
  connect name i h := by
    rw [Eval.runIn_connect, h.environment_eq]
    split
    · exact h
    · next c registry keys hget =>
      obtain ⟨hc, hregistry⟩ := h.registry.of_get hget
      refine ⟨h.environment_eq, h.builder_eq, hregistry, fun c' hc' => ?_⟩
      rcases Array.mem_push.1 hc' with hc' | rfl
      · exact h.connections c' hc'
      · rw [hc]
        rfl

/-! ## Runs -/

/-- What comes about in sessions that share one context, while the environment stays what it was
when the context was made: evaluations of scripts and of steps, calls, and changes from outside,
such as another buffer. The module has the usual column types, as all connections have. -/
inductive ConnectionRun (env : Environment) (expressions : ExpressionRegistry) :
    Interpreter → Prop
  | start {s} (hs : s.connections = #[]) :
      ConnectionRun env expressions ⟨.make env expressions .usual, s⟩
  | script {i} (h : ConnectionRun env expressions i) (s : Script) :
      ConnectionRun env expressions (Eval.runIn i (Eval.script s)).2
  | steps {i} (h : ConnectionRun env expressions i) (ss : List Step) :
      ConnectionRun env expressions (Eval.runIn i (Eval.steps ss)).2
  | call {i} (h : ConnectionRun env expressions i) (f : Function) (args : List ScriptValue) :
      ConnectionRun env expressions
        (Eval.runIn i (Eval.apply (Eval.invoke Eval.maxCalls) args f)).2
  | outside {i s} (h : ConnectionRun env expressions i)
      (hs : s.connections = i.session.connections) :
      ConnectionRun env expressions { i with session := s }
  /-- One session does something, and then it is another one's turn. -/
  | turn {i j} (hi : ConnectionRun env expressions i) (hj : ConnectionRun env expressions j) :
      ConnectionRun env expressions ⟨i.context, j.session⟩

/-- Whatever happens, connections are those of the environment. -/
theorem ConnectionRun.fromEnvironment {i : Interpreter} (h : ConnectionRun env expressions i) :
    i.FromEnvironment env expressions := by
  have hP : Interpreter.Invariant (Interpreter.FromEnvironment env expressions) :=
    Interpreter.FromEnvironment.invariant
  have hstable := hP.stable
  induction h with
  | start hs => exact ⟨rfl, Context.builder_make, .empty, by simp [hs]⟩
  | script _ s ih => exact Eval.keeps_script hstable s _ ih
  | steps _ ss ih => exact Eval.keeps_steps hstable ss _ ih
  | call _ f args ih => exact Eval.keeps_run hstable f args _ ih
  | outside _ hs ih => exact hP.session hs ih
  | turn _ _ ihi ihj => exact { ihi with connections := ihj.connections }

/-! ## Calls -/

/-- A table of the session has the functions of the module. -/
def Session.HasModule (s : Session) (place : Nat) : Prop :=
  ∀ name f, migrateTable.get (.ofString name) = .function f →
    (s.table place).get (.ofString name) = .function f

theorem Session.migrateTable_get_connection :
    migrateTable.get (.ofString "connection") = .function .connection := by decide +kernel

theorem Session.migrateTable_get_name (op : Operation) :
    migrateTable.get (.ofString op.name) = .function (.statement op) := by
  cases op <;> decide +kernel

theorem Eval.connectionMethod?_name (op : Operation) :
    connectionMethod? op.name = some (.connectionStatement op) := by
  cases op <;> decide +kernel

namespace Eval

/-- Calls a statement function of the module. -/
def callModule (invoke : List Step → Eval Unit) (module : Nat) (op : Operation)
    (args : List ScriptValue) : Eval ScriptValue := do
  let f ← member (.table module) op.name
  call invoke f args

/-- Calls a statement function as a method of a connection. -/
def callMethod (invoke : List Step → Eval Unit) (c : ScriptValue) (op : Operation)
    (args : List ScriptValue) : Eval ScriptValue := do
  let f ← member c op.name
  call invoke f (c :: args)

/-- Asks the module for a connection and calls a statement function as its method. -/
def callConnection (invoke : List Step → Eval Unit) (module : Nat) (selector : List ScriptValue)
    (op : Operation) (args : List ScriptValue) : Eval ScriptValue := do
  let f ← member (.table module) "connection"
  let c ← call invoke f selector
  callMethod invoke c op args

variable {i : Interpreter} {invoke : List Step → Eval Unit} {module : Nat} {op : Operation}
  {args : List ScriptValue}

/-- Holds if these arguments ask for the default connection: by none, by nil, or by its name. -/
def AsksDefault (selector : List ScriptValue) : Prop :=
  selector.headD .nil = .nil ∨ selector.headD .nil = .ofString defaultConnection

theorem apply_connection {selector : List ScriptValue} (h : AsksDefault selector) :
    apply invoke selector .connection = connect defaultConnection := by
  rcases h with h | h
  · simp only [apply, h]
  · simp only [apply, h]
    rfl

theorem runIn_callModule (hm : i.session.HasModule module) :
    runIn i (callModule invoke module op args) =
      runIn i (do return ScriptValue.ofString (← statement i.context.builder op args)) := by
  have hf := hm op.name _ (Session.migrateTable_get_name op)
  simp only [callModule, member, runIn_bind, runIn_session, runIn_pure, hf, call, apply, runIn_get]

theorem runIn_callMethod {place : Nat} {c : Connection}
    (hc : i.session.connections[place]? = some c) :
    runIn i (callMethod invoke (.connection place) op args) =
      runIn i (do return ScriptValue.ofString (← statement c.builder op args)) := by
  simp only [callMethod, member, connectionMethod?_name, Option.map_some, ScriptValue.ofOption,
    runIn_bind, runIn_pure, call, apply, runIn_connectionSelf, hc, List.tail_cons]

/-- One more connection in the session makes no difference to a statement. -/
theorem runIn_statement_newConnection (b : StatementBuilder) (context : Context) (c : Connection) :
    runIn ⟨context, (i.session.newConnection c).2⟩ (statement b op args) =
      ((runIn i (statement b op args)).1,
        ⟨context, ((runIn i (statement b op args)).2.session.newConnection c).2⟩) := by
  have hargs : (i.session.newConnection c).2.arguments b.quoter none args =
      i.session.arguments b.quoter none args := Session.arguments_congr rfl rfl rfl
  have hregistered : (i.session.newConnection c).2.registered? = i.session.registered? := rfl
  simp only [statement, runIn_bind, runIn_session, hargs, hregistered]
  cases i.session.registered? with
  | none => rfl
  | some id =>
    dsimp only
    cases op.statement b (i.session.arguments b.quoter none args) with
    | error e => rfl
    | ok sql =>
      dsimp only
      split <;> rfl

/-- Asking for the connection makes its object, and then the statement is made as before. -/
theorem runIn_callConnection (hm : i.session.HasModule module) {selector : List ScriptValue}
    (hselector : AsksDefault selector) {c : Connection} {registry : ConnectionRegistry}
    {keys : List String}
    (hget : i.context.registry.get i.context.environment defaultConnection =
      (.ok c, registry, keys)) :
    runIn i (callConnection invoke module selector op args) =
      let answer := runIn i (do return ScriptValue.ofString (← statement c.builder op args))
      (answer.1, ⟨{ i.context with registry }, (answer.2.session.newConnection c).2⟩) := by
  have hf := hm "connection" _ Session.migrateTable_get_connection
  have hc : (i.session.newConnection c).2.connections[i.session.connections.size]? = some c := by
    simp [Session.newConnection]
  calc
    _ = runIn ⟨{ i.context with registry }, (i.session.newConnection c).2⟩
        (callMethod invoke (.connection i.session.connections.size) op args) := by
      simp only [callConnection, member, runIn_bind, runIn_session, runIn_pure, hf, call,
        apply_connection hselector, runIn_connect, hget]
    _ = _ := by
      rw [runIn_callMethod hc, runIn_bind, runIn_bind, runIn_statement_newConnection]
      generalize runIn i (statement c.builder op args) = r
      obtain ⟨e | sql, j⟩ := r <;> rfl

end Eval

namespace ConnectionRun

variable {i : Interpreter}

/-- While the environment stays what it is, and gives the default connection a URL, a statement
function of the module and the method of the default connection answer the same or fail with the
same fault, and leave the same in all buffers: the sessions differ only by the object of the
connection, if a script asks for it just then. -/
theorem default_agrees (h : ConnectionRun env expressions i)
    (hurl : (ConnectionOption.read env defaultConnection).1.error? = none) {module : Nat}
    (hm : i.session.HasModule module) (invoke : List Step → Eval Unit) (op : Operation)
    (args : List ScriptValue) :
    (∀ selector, Eval.AsksDefault selector →
      let plain := Eval.runIn i (Eval.callModule invoke module op args)
      let asked := Eval.runIn i (Eval.callConnection invoke module selector op args)
      asked.1 = plain.1 ∧ asked.2.session.buffers = plain.2.session.buffers ∧
        asked.2.session =
          { plain.2.session with
            connections := plain.2.session.connections.push
              (.ofEnvironment env expressions defaultConnection) }) ∧
    ∀ place c, i.session.connections[place]? = some c → c.name = defaultConnection →
      Eval.runIn i (Eval.callMethod invoke (.connection place) op args) =
        Eval.runIn i (Eval.callModule invoke module op args) := by
  have hi := h.fromEnvironment
  refine ⟨fun selector hselector => ?_, fun place c hc hname => ?_⟩
  · have hget : ∃ registry keys, i.context.registry.get i.context.environment defaultConnection =
        (.ok (.ofEnvironment env expressions defaultConnection), registry, keys) := by
      rw [hi.environment_eq]
      exact hi.registry.exists_get hurl
    obtain ⟨registry, keys, hget⟩ := hget
    rw [Eval.runIn_callConnection hm hselector hget, Eval.runIn_callModule hm, hi.builder_eq]
    exact ⟨rfl, rfl, rfl⟩
  · have hc' := hi.connections c (Array.mem_of_getElem? hc)
    rw [Eval.runIn_callMethod hc, Eval.runIn_callModule hm, hi.builder_eq, hc', hname]

end ConnectionRun

/-- An environment that gives the default connection a URL, a text before table names, and another
name for one table. -/
def prefixedDefault : Environment :=
  .ofList [("DEFAULT_DB_CONN", "mysql://h/d"), ("DEFAULT_TABLE_PREFIX", "p_"),
    ("DEFAULT_EXTRAS", "tableMap.log=audit")]

/-- A session that has made a column with a place, and then the default connection. -/
def prefixedDefaultSession : Interpreter :=
  (Eval.runIn ⟨.make prefixedDefault .usual .usual, .create "main"⟩ (Eval.steps
    [.value (.column "text" [] [("after", [.text (.valid "a")])]) (some "k"),
      .call "connection" [] (some "c")])).2

/-- The text before table names and the place of the column are those that the module writes. -/
theorem default_agrees_prefixedDefault :
    let i := prefixedDefaultSession
    let invoke := Eval.invoke Eval.maxCalls
    let args := [.ofString "\x7b\x7b%t\x7d\x7d", .ofString "b", .column 0]
    ConnectionRun prefixedDefault .usual i ∧
      (ConnectionOption.read prefixedDefault defaultConnection).1.error? = none ∧
      i.session.HasModule 0 ∧
      (Eval.runIn i (Eval.callConnection invoke 0 [.ofString "default"] .addColumn
        args)).2.session.buffers.text i.session.ownBuffer =
          "ALTER TABLE \x60p_t\x60 ADD \x60b\x60 text NOT NULL AFTER \x60a\x60;\n" ∧
      (Eval.runIn i (Eval.callMethod invoke (.connection 0) .dropTable
        [.ofString "log"])).2.session.issued = ["DROP TABLE audit"] := by
  intro i invoke args
  have hrun : ConnectionRun prefixedDefault .usual i := .steps (.start rfl) _
  have hurl : (ConnectionOption.read prefixedDefault defaultConnection).1.error? = none := by
    decide +kernel
  have htable : i.session.table 0 = Session.migrateTable := by decide +kernel
  have hm : i.session.HasModule 0 := fun name f hf => htable ▸ hf
  have hmade : i.session.connections[0]?.map Connection.name = some defaultConnection := by
    decide +kernel
  obtain ⟨c, hc, hname⟩ := Option.map_eq_some_iff.1 hmade
  refine ⟨hrun, hurl, hm, ?_, ?_⟩
  · have hasked := (hrun.default_agrees hurl hm invoke .addColumn args).1 [.ofString "default"]
      (.inr rfl)
    rw [hasked.2.1]
    decide +kernel
  · rw [(hrun.default_agrees hurl hm invoke .dropTable [.ofString "log"]).2 0 c hc hname]
    decide +kernel

end SchemaMigration
