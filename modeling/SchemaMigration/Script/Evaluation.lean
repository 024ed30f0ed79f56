import SchemaMigration.Script.Session

/-!
# Evaluation

What terms and steps do to a session. Evaluation goes from left to right and stops at the first
fault; what was done before it stays done. Functions of scripts call each other through `invoke`,
the evaluation with one call less to go, so that every definition here is a recursion on the script.

## Main definitions

* `Eval` — a computation in a session.
* `Eval.statement` — makes a statement and writes it to the registered buffer.
* `Eval.call` — calls a function.
* `Term.eval`, `Step.eval` — the value of a term and the result of a step.
* `Eval.script` — evaluates a script file.
-/

namespace SchemaMigration

/-- A session and what it shares with others. -/
structure Interpreter where
  context : Context
  session : Session
deriving Inhabited

/-- A computation in a session. A fault keeps what was done before it. -/
abbrev Eval (α : Type) := ExceptT ScriptFault (StateM Interpreter) α

namespace Eval

def session : Eval Session := return (← get).session

def update (f : Session → Session) : Eval Unit := modify fun i => { i with session := f i.session }

def make {α : Type} (f : Session → α × Session) : Eval α := do
  let (a, s) := f (← session)
  update fun _ => s
  return a

/-! ## Functions -/

def arguments (q : Quoter) (args : List ScriptValue) : Eval Arguments :=
  return (← session).arguments q none args

/-- Makes a statement and writes it to the registered buffer, unless it is empty. Without such a
buffer nothing is converted or made. -/
def statement (b : StatementBuilder) (op : Operation) (args : List ScriptValue) : Eval String := do
  let s ← session
  match s.registered? with
  | none => throw .missingBuffer
  | some id =>
    match op.statement b (s.arguments b.quoter none args) with
    | .error e => throw (.query e)
    | .ok sql =>
      if sql.isEmpty then return sql
      update (·.issue id sql)
      return sql

/-- The text that an argument is where only a text will do: a valid text or a number. -/
def textArgument (v : ScriptValue) : Eval String :=
  match v with
  | .text (.valid s) => return s
  | .int n => return toString n
  | .float x => return floatText x
  | _ => throw .argument
where
  /-- Fourteen significant digits, and `.0` after a whole number. -/
  floatText (x : Float) : String :=
    Decimal.Layout.write {
      count := some 14
      tie := .even
      positional point := -4 < point && point ≤ 14
      wholeEnd := ".0"
      exponentPlus := true
      exponentWidth := 2
      nan := "nan"
      infinite negative := if negative then "-inf" else "inf" } x

/-- The connection of a name, as an object of the session. -/
def connect (name : String) : Eval ScriptValue := do
  let i ← get
  match i.context.registry.get i.context.environment name with
  | (.error e, _, _) => throw (.configuration e)
  | (.ok c, registry, _) =>
    set { i with context := { i.context with registry } }
    make (·.newConnection c)

/-- The message of a log call: its arguments with spaces between them, `nil` for an absent one. -/
def logMessage (a : Arguments) : String :=
  " ".intercalate (a.values.map fun v => if v.isNull then "nil" else v.asText)

def columnSelf : List ScriptValue → Eval (Nat × Column)
  | .column place :: _ => do
    match (← session).columns[place]? with
    | some c => return (place, c)
    | none => throw .argument
  | _ => throw .argument

def connectionSelf : List ScriptValue → Eval Connection
  | .connection place :: _ => do
    match (← session).connections[place]? with
    | some c => return c
    | none => throw .argument
  | _ => throw .argument

def bufferSelf : List ScriptValue → Eval BufferId
  | .buffer id :: _ => return id
  | _ => throw .argument

/-- Changes the column that is the first argument. The column itself is absent among the further
arguments. -/
def setColumn (setter : Setter) (args : List ScriptValue) : Eval ScriptValue := do
  let (place, c) ← columnSelf args
  let a := (← session).arguments {} (some place) args.tail
  update (·.setColumn place (c.set (setter.setting a)))
  return .column place

/-- Calls a function. A function of a script does the steps of its body, whatever its arguments. -/
def apply (invoke : List Step → Eval Unit) (args : List ScriptValue) : Function → Eval ScriptValue
  | .script place => do
    invoke ((← session).functions[place]?.getD [])
    return .nil
  | .print => return .nil
  | .factory tag => do
    let a ← arguments {} args
    make (·.newColumn (.ofArgs tag a.values))
  | .column => do
    let a ← arguments {} args
    make (·.newColumn (.ofArgs (a.text 0) (a.rest 1)))
  | .statement op => do
    return .ofString (← statement (← get).context.builder op args)
  | .comment => do
    let text ← textArgument (args.headD .nil)
    return .ofString ("COMMENT(" ++ Column.quoteComment text ++ ")")
  | .connection =>
    match args.headD .nil with
    | .nil => connect defaultConnection
    | v => do connect (← textArgument v)
  | .log level => do
    let a ← arguments {} args
    update (·.addEvent ⟨level, logMessage a⟩)
    return .nil
  | .setColumn setter => setColumn setter args
  | .columnCategory => do
    return .ofString (← columnSelf args).2.category.name
  | .connectionStatement op => do
    return .ofString (← statement (← connectionSelf args).builder op args.tail)
  | .connectionName => do
    return .ofString (← connectionSelf args).name
  | .bufferWrite => do
    let id ← bufferSelf args
    let text ← textArgument (args.tail.headD .nil)
    update (·.updateBuffers (·.write id text))
    return .nil
  | .bufferString => do
    let id ← bufferSelf args
    return .ofString ((← session).buffers.text id)
  | .bufferReset => do
    let id ← bufferSelf args
    update (·.updateBuffers (·.reset id))
    return .nil
  | .bufferLen => do
    let id ← bufferSelf args
    return .int ((← session).buffers.text id).utf8ByteSize

/-- Calls a value, which must be a function. -/
def call (invoke : List Step → Eval Unit) (f : ScriptValue) (args : List ScriptValue) :
    Eval ScriptValue :=
  match f with
  | .function f => apply invoke args f
  | _ => throw .operation

/-! ## Members -/

def columnMethod? (name : String) : Option Function :=
  if name = "category" then some .columnCategory
  else (Setter.all.find? (·.name == name)).map .setColumn

def connectionMethod? (name : String) : Option Function :=
  if name = "name" then some .connectionName
  else (Operation.ofName? name).map .connectionStatement

def bufferMethod? (name : String) : Option Function :=
  Dict.get? [("len", .bufferLen), ("reset", .bufferReset), ("string", .bufferString),
    ("write", .bufferWrite)] name

/-- The member of a value: what a table has under the name, or a method of an object. Only tables,
objects and texts have members. -/
def member (v : ScriptValue) (name : String) : Eval ScriptValue :=
  match v with
  | .table place => return ((← session).table place).get (.ofString name)
  | .column _ => return .ofOption ((columnMethod? name).map .function)
  | .connection _ => return .ofOption ((connectionMethod? name).map .function)
  | .buffer _ => return .ofOption ((bufferMethod? name).map .function)
  | .text _ => return .nil
  | _ => throw .operation

/-! ## Tables -/

def setEntry (t : Table) (key value : ScriptValue) : Eval Table :=
  match key.key? with
  | some key => return t.set key value
  | none => throw .operation

def tableOf : List (ScriptValue × ScriptValue) → Table → Eval Table
  | [], t => return t
  | (key, value) :: entries, t => do tableOf entries (← setEntry t key value)

def put (table key value : ScriptValue) : Eval Unit :=
  match table with
  | .table place => do
    let t ← setEntry ((← session).table place) key value
    update (·.setTable place t)
  | _ => throw .operation

/-! ## Variables -/

/-- Keeps a result in a variable, if there is one for it. -/
def keep (target : Option String) (v : ScriptValue) : Eval ScriptValue := do
  match target with
  | some name => update (·.setVar name v)
  | none => pure ()
  return v

/-- The integer that a text of decimal digits denotes, if 64 bits hold it. -/
def integer? (s : String) : Option Int :=
  let n? : Option Int :=
    match s.toList with
    | '-' :: cs => (Decimal.nat? (.ofList cs)).map fun n => -(n : Int)
    | _ => (Decimal.nat? s).map fun n => (n : Int)
  n?.filter fun n => -0x8000000000000000 ≤ n && n < 0x8000000000000000

/-- A value with one added. Integers wrap around at 64 bits; a missing value counts as zero, and a
text as the number that it denotes. -/
def successor (v : ScriptValue) : Eval ScriptValue :=
  match v with
  | .nil | .bool false => return .int 1
  | .int n => return .int ((n + 1).bmod 0x10000000000000000)
  | .float x => return .float (x + 1)
  | .text (.valid s) =>
    let s := Text.trim s
    match integer? s, Decimal.float? s with
    | some n, _ => return .int ((n + 1).bmod 0x10000000000000000)
    | none, some x => if x.isFinite then return .float (x + 1) else throw .operation
    | none, none => throw .operation
  | _ => throw .operation

def describe (v : ScriptValue) : Eval ScriptValue := do
  let s ← session
  match v with
  | .nil => return .ofString "nil"
  | .bool b => return .ofString (if b then "true" else "false")
  | .int n => return .ofString (toString n)
  | .float x => return .ofString (textArgument.floatText x)
  | .text t => return .text t
  | .column place => return .ofString ((s.columns[place]?.map (·.definition {})).getD "")
  | .connection place =>
    return .ofString ("connection(" ++ (s.connections[place]?.map (·.name)).getD "" ++ ")")
  | .table _ => return .ofString "table"
  | .function _ => return .ofString "function"
  | .buffer _ => return .ofString "buffer"

end Eval

/-! ## Terms and steps -/

mutual

def Term.eval (invoke : List Step → Eval Unit) : Term → Eval ScriptValue
  | .nil => return .nil
  | .bool b => return .bool b
  | .int n => return .int n
  | .float x => return .float x
  | .text s => return .text s
  | .function => Eval.make (·.newFunction [])
  | .var name => return (← Eval.session).var name
  | .global name => return (← Eval.session).global name
  | .array items => do
    let vs ← evalItems invoke items
    Eval.make (·.newTable (.ofItems vs))
  | .table entries => do
    let kvs ← evalEntries invoke entries
    let t ← Eval.tableOf kvs []
    Eval.make (·.newTable t)
  | .column factory args settings => do
    let f ← Eval.member ((← Eval.session).global Session.migrateGlobal) factory
    let vs ← evalItems invoke args
    let v ← Eval.call invoke f vs
    evalSettings invoke v settings

def evalItems (invoke : List Step → Eval Unit) : List Term → Eval (List ScriptValue)
  | [] => return []
  | t :: ts => do
    let v ← t.eval invoke
    let vs ← evalItems invoke ts
    return v :: vs

def evalEntries (invoke : List Step → Eval Unit) :
    List (Term × Term) → Eval (List (ScriptValue × ScriptValue))
  | [] => return []
  | (key, value) :: entries => do
    let k ← key.eval invoke
    let v ← value.eval invoke
    let kvs ← evalEntries invoke entries
    return (k, v) :: kvs

/-- Calls methods one after the other, each on the result of the one before. -/
def evalSettings (invoke : List Step → Eval Unit) (v : ScriptValue) :
    List (String × List Term) → Eval ScriptValue
  | [] => return v
  | (name, args) :: settings => do
    let f ← Eval.member v name
    let vs ← evalItems invoke args
    let r ← Eval.call invoke f (v :: vs)
    evalSettings invoke r settings

end

mutual

def Step.eval (invoke : List Step → Eval Unit) : Step → Eval ScriptValue
  | .call function args target => do
    let f ← Eval.member ((← Eval.session).global Session.migrateGlobal) function
    let vs ← evalItems invoke args
    Eval.keep target (← Eval.call invoke f vs)
  | .method name on args target => do
    let v ← on.eval invoke
    let f ← Eval.member v name
    let vs ← evalItems invoke args
    Eval.keep target (← Eval.call invoke f (v :: vs))
  | .member name on args target => do
    let f ← Eval.member (← on.eval invoke) name
    let vs ← evalItems invoke args
    Eval.keep target (← Eval.call invoke f vs)
  | .value term target => do Eval.keep target (← term.eval invoke)
  | .setGlobal name term => do
    let v ← term.eval invoke
    Eval.update (·.setGlobal name v)
    return .nil
  | .guardGlobals => do
    Eval.update (·.guardGlobals)
    return .nil
  | .put table key value => do
    let t ← table.eval invoke
    let k ← key.eval invoke
    let v ← value.eval invoke
    Eval.put t k v
    return .nil
  | .increment name => do
    let v ← Eval.successor ((← Eval.session).var name)
    Eval.keep (some name) v
  | .describe term => do Eval.describe (← term.eval invoke)
  | .log level args => do
    let f ← Eval.member ((← Eval.session).global Session.loggerGlobal) level
    let vs ← evalItems invoke args
    let _ ← Eval.call invoke f vs
    return .nil
  | .fail message => throw (.failure message)
  | .attempt steps =>
    tryCatch (do evalSteps invoke steps; return .bool true) fun _ => return .bool false

/-- Does steps in order, up to the first that fails. -/
def evalSteps (invoke : List Step → Eval Unit) : List Step → Eval Unit
  | [] => return
  | s :: ss => do
    let _ ← s.eval invoke
    evalSteps invoke ss

end

namespace Eval

/-- How deep functions of scripts may call each other. -/
def maxCalls : Nat := 200

/-- Does the steps of a function's body, with so many calls to go. -/
def invoke : Nat → List Step → Eval Unit
  | 0, _ => throw .operation
  | calls + 1, body => evalSteps (invoke calls) body

def step (s : Step) : Eval ScriptValue := s.eval (invoke maxCalls)

def steps (ss : List Step) : Eval Unit := evalSteps (invoke maxCalls) ss

def term (t : Term) : Eval ScriptValue := t.eval (invoke maxCalls)

def entry : Entry → Eval ScriptValue
  | .function body => make (·.newFunction body)
  | .value t => term t

/-- Adds the entries of a script to its entry table. -/
def entries : List (String × Entry) → Table → Eval Table
  | [], t => return t
  | (name, e) :: rest, t => do
    let v ← entry e
    entries rest (t.set (.ofString name) v)

/-- Gives the entry table a global name, if there is one for it. -/
def publish (module : ScriptValue) : Option String → Eval Unit
  | some name => update (·.setGlobal name module)
  | none => return

def answer (module : ScriptValue) : Answer → Eval ScriptValue
  | .entries => return module
  | .nothing => return .nil
  | .value t => term t

/-- Evaluates a script file: makes the entry table, does the top level, gives the table its global
name, and answers. -/
def script : Script → Eval ScriptValue
  | .empty => return .nil
  | .malformed _ => throw .malformed
  | .program p => do
    let t ← entries p.entries []
    let module ← make (·.newTable t)
    steps p.top
    publish module p.global?
    answer module p.answer

/-- Runs a computation in a session. -/
def runIn {α : Type} (i : Interpreter) (x : Eval α) : Except ScriptFault α × Interpreter :=
  x.run.run i

end Eval

end SchemaMigration
