import SchemaMigration.Files.Store

/-!
# The state of an adapter

An adapter has a record of fields that its operations set and clear one by one: the handle of its
script and the identifier that goes with it, the text that was read, what evaluating it answered,
and the entry that was rendered last. Its status is read off these fields. A workspace keeps them in
one of five phases, in which the fields always belong together.

## Main definitions

* `Adapter.State` — the fields, with what binding, resetting and closing do to them.
* `Adapter.State.status` — the status, of which the first that applies counts.
* `Adapter.Phase` — how far an adapter is with its script.
* `Adapter.Phase.state`, `Adapter.State.phase` — the fields of a phase, and the phase of fields.
-/

namespace SchemaMigration

namespace Adapter

/-- What a script answered: a table of the session, or nothing that can be used. -/
abbrev Module := Option Nat

inductive Status where
  | unbound
  | bound
  | loaded
  | rendered
  | closed
deriving DecidableEq, Repr

def Status.name : Status → String
  | .unbound => "Unbound"
  | .bound => "Bound"
  | .loaded => "Loaded"
  | .rendered => "Rendered"
  | .closed => "Closed"

/-- What an adapter knows of its script. -/
structure State where
  handle? : Option ScriptHandle := none
  identifier? : Option String := none
  /-- The text of the script, once it was read. -/
  script? : Option Script := none
  module : Module := none
  loaded : Bool := false
  /-- The entry of the last rendering. -/
  entry? : Option String := none
  rendered : Bool := false
  closed : Bool := false
deriving Inhabited

namespace State

/-- Several of these may hold at once; the first of them is the status. -/
def status (s : State) : Status :=
  if s.closed then .closed
  else if s.rendered then .rendered
  else if s.loaded then .loaded
  else if s.handle?.isSome then .bound
  else .unbound

/-- Holds if the adapter itself can be bound to a script. -/
def isFree (s : State) : Bool := s.handle?.isNone && !s.closed

def attach (handle : ScriptHandle) (s : State) : State :=
  { s with handle? := some handle, identifier? := some (Path.identifier handle.name) }

def setRendered (entry : String) (s : State) : State :=
  { s with entry? := some entry, rendered := true }

/-- Forgets the script. What is closed stays closed. -/
def clear (s : State) : State := { closed := s.closed }

def close (s : State) : State := if s.closed then s else { s.clear with closed := true }

end State

/-! ## Phases -/

/-- The script that an adapter is bound to. It is read from its file once. -/
structure Binding where
  handle : ScriptHandle
  script? : Option Script := none

def Binding.identifier (b : Binding) : String := Path.identifier b.handle.name

/-- How far an adapter is with its script. -/
inductive Phase where
  | unbound
  | bound (b : Binding)
  /-- The script was evaluated. -/
  | loaded (b : Binding) (m : Module)
  /-- An entry function was called since, the last one by this name. -/
  | rendered (b : Binding) (m : Module) (entry : String)
  | closed
deriving Inhabited

/-- The fields of an adapter that is bound. -/
def Binding.state (b : Binding) : State where
  handle? := some b.handle
  identifier? := some b.identifier
  script? := b.script?

def Phase.state : Phase → State
  | .unbound => {}
  | .bound b => b.state
  | .loaded b m => { b.state with module := m, loaded := true }
  | .rendered b m entry =>
    { b.state with module := m, loaded := true, entry? := some entry, rendered := true }
  | .closed => { closed := true }

/-- The phase that has the status of the fields. -/
def State.phase (s : State) : Phase :=
  match s.handle? with
  | none => if s.closed then .closed else .unbound
  | some handle =>
    let b : Binding := { handle, script? := s.script? }
    match s.status with
    | .rendered => .rendered b s.module (s.entry?.getD "")
    | .loaded => .loaded b s.module
    | .closed => .closed
    | .bound | .unbound => .bound b

/-- The fields of a phase are those of no other. -/
@[simp] theorem Phase.phase_state (p : Phase) : p.state.phase = p := by
  cases p <;> rfl

end Adapter

end SchemaMigration
