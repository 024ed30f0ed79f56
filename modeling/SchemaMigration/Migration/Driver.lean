import SchemaMigration.Migration.Locator
import SchemaMigration.Migration.Pool
import SchemaMigration.Migration.VersionIndex

/-!
# Drivers

A driver is opened on a locator. It has an index of the versions in the directory, and renders each
version through an adapter of its own, which it makes on first use. Drivers share sessions and
stores by key.

## Main definitions

* `Driver.openUrl` — the driver of a locator.
* `Driver.first`, `Driver.prev`, `Driver.next` — steps through the versions.
* `Driver.source`, `Driver.read` — the adapter of a version, and what it renders.
* `Driver.close` — closes the adapters and the store.
-/

namespace SchemaMigration

structure OpenedSource where
  /-- The key of the store. -/
  key : String
  store : StoreId
  session : SessionId
  index : VersionIndex
  /-- The adapters that the driver made. -/
  adapters : AdapterSetId
deriving DecidableEq, Repr

/-- A driver, which may be opened on a directory. -/
structure Driver where
  opened? : Option OpenedSource := none
deriving DecidableEq, Repr, Inhabited

namespace Driver

/-- The parameter of a locator that names the session. -/
def sessionParameter : String := "vm"

/-- The session for locators that name none. -/
def defaultSession : String := "default"

def storeKey (path : String) : String := scriptScheme ++ "://" ++ path

/-- The driver of a locator. The session is registered before the directory is looked at. -/
def openUrl (url : String) : Work Driver := do
  let locator ← Work.orConfiguration (Locator.parse url)
  let session ← Work.make (·.sessionOf ((locator.query.get? sessionParameter).getD defaultSession))
  let key := storeKey locator.path
  let store ← Work.storeOf key locator.path
  let index ← Work.orConfiguration (VersionIndex.ofNames (← Work.list store))
  let adapters ← Work.make (·.newAdapterSet)
  return ⟨some { key, store, session, index, adapters }⟩

/-- The versions with the names of their scripts. -/
def migrations (d : Driver) : VersionIndex := (d.opened?.map OpenedSource.index).getD []

def opened (d : Driver) : Except MigrationError OpenedSource :=
  match d.opened? with
  | some o => .ok o
  | none => .error (.configuration .notOpened)

/-- A step of the index, or the error that there is none. -/
def step (d : Driver) (missing : Nat) (f : VersionIndex → Option Nat) :
    Except MigrationError Nat := do
  match f (← d.opened).index with
  | some version => return version
  | none => throw (.versionNotFound missing)

def first (d : Driver) : Except MigrationError Nat := d.step 0 VersionIndex.first?

def prev (d : Driver) (version : Nat) : Except MigrationError Nat :=
  d.step version (·.prev? version)

def next (d : Driver) (version : Nat) : Except MigrationError Nat :=
  d.step version (·.next? version)

/-- The adapter of a version, made and bound on first use. -/
def source (d : Driver) (version : Nat) : Work AdapterId := do
  let o ← d.opened
  let some name := o.index.get? version | throw (.versionNotFound version)
  let set := (← get).adapterSet o.adapters
  match set.lookup version with
  | some id => return id
  | none =>
    let id ← Work.bindNew o.store o.session name
    modify (·.setAdapterSet o.adapters ((version, id) :: set))
    return id

/-- Renders the entry of a version that a method names. -/
def read (d : Driver) (version : Nat) (method : String) : Work Rendered := do
  Work.read (← d.source version) method

/-- Closes the adapters of the driver, and the store of its key. -/
def close (d : Driver) : Work Unit := do
  match d.opened? with
  | none => return
  | some o =>
    Work.closeAll ((← get).adapterSet o.adapters)
    modify fun w => (w.setAdapterSet o.adapters []).removeStore o.key

def describe (d : Driver) (w : Workspace) : String :=
  match d.opened? with
  | none => "LuaScriptDriver \x7b .. \x7d"
  | some o =>
    Text.openRecord "LuaScriptDriver"
      [("source", Text.quoted o.key), ("session", Text.quoted (w.session o.session).name),
        ("versions", Text.listing (o.index.versions.map toString))]

end Driver

end SchemaMigration
