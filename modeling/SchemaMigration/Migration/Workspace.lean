import SchemaMigration.Migration.Adapter

/-!
# Workspaces

A workspace holds the files and everything that was made from them: sessions, stores, adapters, and
the pools in which sessions and stores are registered by key.

## Main definitions

* `Workspace` — the state of a run.
* `Work` — a computation that changes a workspace and may fail.
* `Work.bind`, `Work.read`, `Work.reset`, `Work.close` — what is done with an adapter.
-/

namespace SchemaMigration

structure AdapterId where
  index : Nat
deriving DecidableEq, Repr, Inhabited

structure AdapterSetId where
  index : Nat
deriving DecidableEq, Repr, Inhabited

/-- The adapters of one user, by version. -/
abbrev AdapterSet := List (Nat × AdapterId)

/-- Sessions by key, and how many were made for a key that had none. -/
structure SessionPool where
  registered : Dict SessionId := []
  created : Nat := 0
deriving DecidableEq, Repr, Inhabited

/-- The files and what was made from them. -/
structure Workspace where
  files : FileTree := {}
  context : Context := {}
  /-- How each session, once it is made, goes through its tables. -/
  orders : SessionId → TableOrder := fun _ => .textsLast
  sessions : Array Session := #[]
  stores : Array ScriptStore := #[]
  adapters : Array Adapter := #[]
  adapterSets : Array AdapterSet := #[]
  sessionPool : SessionPool := {}
  /-- The stores in use, by key. -/
  storePool : Dict StoreId := []
deriving Inhabited

namespace Workspace

def session (w : Workspace) (id : SessionId) : Session := w.sessions[id.index]?.getD default

def store (w : Workspace) (id : StoreId) : ScriptStore := w.stores[id.index]?.getD default

def adapter (w : Workspace) (id : AdapterId) : Adapter := w.adapters[id.index]?.getD default

def interpreter (w : Workspace) (id : SessionId) : Interpreter := ⟨w.context, w.session id⟩

/-- The workspace after a computation in a session. -/
def setInterpreter (w : Workspace) (id : SessionId) (i : Interpreter) : Workspace :=
  { w with context := i.context, sessions := w.sessions.setIfInBounds id.index i.session }

def updateSession (w : Workspace) (id : SessionId) (f : Session → Session) : Workspace :=
  { w with sessions := w.sessions.modify id.index f }

def setPhase (w : Workspace) (id : AdapterId) (p : Adapter.Phase) : Workspace :=
  { w with adapters := w.adapters.modify id.index fun a => { a with phase := p } }

def setState (w : Workspace) (id : AdapterId) (s : Adapter.State) : Workspace :=
  w.setPhase id s.phase

/-- Makes a session that no key is registered for. -/
def newSession (w : Workspace) (name : String) : SessionId × Workspace :=
  let id : SessionId := ⟨w.sessions.size⟩
  (id, { w with sessions := w.sessions.push (.create name (w.orders id)) })

/-- Adds a store that no key is registered for. -/
def addStore (w : Workspace) (s : ScriptStore) : StoreId × Workspace :=
  (⟨w.stores.size⟩, { w with stores := w.stores.push s })

/-- Makes an adapter with a buffer in its session. -/
def newAdapter (w : Workspace) (store : StoreId) (session : SessionId) : AdapterId × Workspace :=
  let (output, s) := (w.session session).newBuffer
  (⟨w.adapters.size⟩,
    { w with
      sessions := w.sessions.setIfInBounds session.index s
      adapters := w.adapters.push { store, session, output } })

def adapterSet (w : Workspace) (id : AdapterSetId) : AdapterSet := w.adapterSets[id.index]?.getD []

/-- Makes an empty set of adapters. -/
def newAdapterSet (w : Workspace) : AdapterSetId × Workspace :=
  (⟨w.adapterSets.size⟩, { w with adapterSets := w.adapterSets.push [] })

def setAdapterSet (w : Workspace) (id : AdapterSetId) (set : AdapterSet) : Workspace :=
  { w with adapterSets := w.adapterSets.setIfInBounds id.index set }

def closeStore (w : Workspace) (id : StoreId) : Workspace :=
  { w with stores := w.stores.modify id.index fun s => { s with closed := true } }

def output (w : Workspace) (id : AdapterId) : String :=
  let a := w.adapter id
  (w.session a.session).buffers.text a.output

def describeAdapter (w : Workspace) (id : AdapterId) : String :=
  let a := w.adapter id
  Text.openRecord "ScriptSource"
    [("session", Text.quoted (w.session a.session).name),
      ("identifier",
        match a.state.identifier? with
        | some identifier => "Some(" ++ Text.quoted identifier ++ ")"
        | none => "None"),
      ("status", a.state.status.name)]

end Workspace

/-- A computation that changes a workspace. A failure keeps what was done before it. -/
abbrev Work (α : Type) := ExceptT MigrationError (StateM Workspace) α

namespace Work

def orConfiguration {α : Type} : Except ConfigurationError α → Work α
  | .ok a => return a
  | .error e => throw (.configuration e)

def make {α : Type} (f : Workspace → α × Workspace) : Work α := modifyGet f

def openStore (root : String) : Work StoreId := do
  let s ← ScriptStore.openAt (← get).files root
  make (·.addStore s)

def list (id : StoreId) : Work (List String) := do
  let w ← get
  (w.store id).list w.files

/-! ## Adapters -/

def openScript (id : StoreId) (name : String) : Work ScriptHandle := do
  let w ← get
  (w.store id).openScript w.files name

def bindNew (store : StoreId) (session : SessionId) (name : String) : Work AdapterId := do
  let handle ← openScript store name
  let id ← make (·.newAdapter store session)
  modify (·.setState id (.attach handle {}))
  return id

/-- Binds a script. An adapter that has none and is not closed is bound itself; any other stays as
it is, and a new adapter on its store and session is bound. -/
def bind (id : AdapterId) (name : String) : Work AdapterId := do
  let a := (← get).adapter id
  if a.state.isFree then
    let handle ← openScript a.store name
    modify (·.setState id (a.state.attach handle))
    return id
  else bindNew a.store a.session name

def read (id : AdapterId) (method : String) : Work Rendered := do
  let w ← get
  let a := w.adapter id
  let (result, x) :=
    Adapter.Progress.read w.files a.output method
      { state := a.state, interpreter := w.interpreter a.session }
  set ((w.setInterpreter a.session x.interpreter).setState id x.state)
  result

def emptyOutput (id : AdapterId) : Work Unit := do
  let a := (← get).adapter id
  modify (·.updateSession a.session (·.updateBuffers (·.reset a.output)))

/-- Forgets the script of an adapter. -/
def reset (id : AdapterId) : Work Unit := do
  let a := (← get).adapter id
  modify (·.setState id a.state.clear)
  emptyOutput id

/-- Closes an adapter for good. -/
def close (id : AdapterId) : Work Unit := do
  let a := (← get).adapter id
  if a.state.closed then return
  modify (·.setState id a.state.close)
  emptyOutput id

def closeAll : AdapterSet → Work Unit
  | [] => return
  | (_, id) :: set => do
    close id
    closeAll set

end Work

end SchemaMigration
