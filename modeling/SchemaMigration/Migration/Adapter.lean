import SchemaMigration.Migration.AdapterState
import SchemaMigration.Migration.EntryName
import SchemaMigration.Script.Evaluation

/-!
# Adapters

An adapter turns the entries of one migration script into SQL. It evaluates its script at most once
and keeps the table that the script answers; every reading empties the adapter's buffer and calls an
entry function again. While it reads, statements go to its own buffer.

The only metatable is that of a guarded session, whose function does nothing. Functions of
metatables that do something or fail are left out, and with them the errors that installing a buffer
and looking up an entry could come to.

## Main definitions

* `Adapter.Access` — what an adapter does outside of itself.
* `Adapter.Progress.load` — evaluates the script unless that was done.
* `Adapter.Progress.read` — reads an entry.
-/

namespace SchemaMigration

structure SessionId where
  index : Nat
deriving DecidableEq, Repr, Inhabited

structure StoreId where
  index : Nat
deriving DecidableEq, Repr, Inhabited

/-- The SQL that an entry function wrote. -/
structure Rendered where
  identifier : String
  entry : String
  sql : String
deriving DecidableEq, Repr

namespace Adapter

/-- Evaluates a script and keeps the table that it answers, if any. -/
def evaluate (s : Script) : Eval Module := do
  match ← Eval.script s with
  | .table place => return some place
  | _ => return none

/-- The table with the entries: the module, or else what the session has under the identifier. -/
def entryTable? (s : Session) (identifier : String) : Module → Option Table
  | some place => some (s.table place)
  | none =>
    match s.global identifier with
    | .table place => some (s.table place)
    | _ => none

/-- The function of an entry. Looking it up runs nothing and has no error, since metatables are left
out. -/
def entryFunction? (s : Session) (identifier entry : String) (m : Module) : Option Function :=
  match entryTable? s identifier m with
  | some t =>
    match t.get (.ofString entry) with
    | .function f => some f
    | _ => none
  | none => none

/-! ## Reading an entry -/

/-- What an adapter does outside of itself and of its session's names and buffers. -/
inductive Access where
  | file (result : Except MigrationError Script)
  | evaluation (s : Script) (result : Except ScriptFault Module)
  | entry (f : Function)

/-- How far a reading is: the state of the adapter, its session, and what was done so far. -/
structure Progress where
  state : State
  interpreter : Interpreter
  accesses : List Access := []

namespace Progress

def note (x : Progress) (a : Access) : Progress := { x with accesses := x.accesses ++ [a] }

def updateState (x : Progress) (f : State → State) : Progress := { x with state := f x.state }

def updateSession (x : Progress) (f : Session → Session) : Progress :=
  { x with interpreter := { x.interpreter with session := f x.interpreter.session } }

/-- The script, from its file unless it was read before. -/
def script (t : FileTree) (x : Progress) : Except MigrationError Script × Progress :=
  match x.state.script?, x.state.handle? with
  | some s, _ => (.ok s, x)
  | none, none => (.error .notBound, x)
  | none, some handle =>
    let result := handle.read t
    let x := x.note (.file result)
    match result with
    | .error e => (.error e, x)
    | .ok s => (.ok s, x.updateState ({ · with script? := some s }))

/-- Evaluates the script unless that was done. A script that was read is kept even if evaluating it
fails. -/
def load (t : FileTree) (identifier : String) (x : Progress) :
    Except MigrationError Unit × Progress :=
  if x.state.loaded then (.ok (), x)
  else
    match x.script t with
    | (.error e, x) => (.error e, x)
    | (.ok s, x) =>
      let (result, interpreter) := Eval.runIn x.interpreter (evaluate s)
      let x := { x with interpreter }.note (.evaluation s result)
      match result with
      | .error fault => (.error (.scriptEval identifier fault), x)
      | .ok m => (.ok (), x.updateState ({ · with module := m, loaded := true }))

/-- Empties a buffer, calls the function of an entry, and answers what the buffer holds then. -/
def call (output : BufferId) (identifier entry : String) (x : Progress) :
    Except MigrationError String × Progress :=
  let x := x.updateSession (·.updateBuffers (·.reset output))
  match entryFunction? x.interpreter.session identifier entry x.state.module with
  | none => (.error (.entryNotFound identifier entry), x)
  | some f =>
    let (result, interpreter) :=
      Eval.runIn x.interpreter (Eval.apply (Eval.invoke Eval.maxCalls) [] f)
    let x := { x with interpreter }.note (.entry f)
    match result with
    | .error fault => (.error (.scriptEval identifier fault), x)
    | .ok _ => (.ok (interpreter.session.buffers.text output), x)

/-- What an entry function writes. Statements go to the buffer of the adapter, from the evaluation
of the script on. -/
def render (t : FileTree) (output : BufferId) (identifier entry : String) (x : Progress) :
    Except MigrationError String × Progress :=
  let x := x.updateSession (·.install output)
  match x.load t identifier with
  | (.error e, x) => (.error e, x)
  | (.ok (), x) => x.call output identifier entry

/-- Renders the entry that a method names. Afterwards the session's own buffer is installed again,
whatever came of it. -/
def read (t : FileTree) (output : BufferId) (method : String) (x : Progress) :
    Except MigrationError Rendered × Progress :=
  let entry := EntryName.ofMethod method
  match x.state.identifier? with
  | none => (.error .notBound, x)
  | some identifier =>
    let (result, x) := x.render t output identifier entry
    let x := x.updateSession fun s => s.install s.ownBuffer
    match result with
    | .error e => (.error e, x)
    | .ok sql => (.ok { identifier, entry, sql }, x.updateState (·.setRendered entry))

end Progress

end Adapter

/-- An adapter: its store, its session with a buffer there, and how far it is. -/
structure Adapter where
  store : StoreId
  session : SessionId
  output : BufferId
  phase : Adapter.Phase := .unbound
deriving Inhabited

def Adapter.state (a : Adapter) : State := a.phase.state

end SchemaMigration
