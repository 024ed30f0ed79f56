import SchemaMigration.Migration.Workspace

/-!
# Pools

Sessions and stores are registered by key. A key keeps what it was registered for first, until a
store is removed.

## Main definitions

* `Work.addSession`, `Work.sessionOf` — registers a session, and finds or makes the one of a key.
* `Work.addStoreAs`, `Work.storeOf`, `Work.removeStore` — the same for stores, and their removal.
-/

namespace SchemaMigration

namespace Workspace

def session? (w : Workspace) (key : String) : Option SessionId := w.sessionPool.registered.get? key

def store? (w : Workspace) (key : String) : Option StoreId := w.storePool.get? key

/-- Registers a session for a key. A key that has one keeps it. -/
def addSession (w : Workspace) (key : String) (id : SessionId) : Bool × Workspace :=
  if (w.session? key).isSome then (false, w)
  else
    let registered := w.sessionPool.registered.insert key id
    (true, { w with sessionPool := { w.sessionPool with registered } })

/-- The session of a key. It is made and registered if the key has none. -/
def sessionOf (w : Workspace) (key : String) : SessionId × Workspace :=
  match w.session? key with
  | some id => (id, w)
  | none =>
    let (id, w) := w.newSession key
    (id,
      { w with
        sessionPool :=
          { registered := w.sessionPool.registered.insert key id
            created := w.sessionPool.created + 1 } })

/-- Registers a store for a key. A key that has one keeps it. -/
def addStoreAs (w : Workspace) (key : String) (id : StoreId) : Bool × Workspace :=
  if (w.store? key).isSome then (false, w)
  else (true, { w with storePool := w.storePool.insert key id })

/-- Closes the store of a key, if there is one, and frees the key. -/
def removeStore (w : Workspace) (key : String) : Workspace :=
  match w.store? key with
  | some id => { w with storePool := w.storePool.erase key }.closeStore id
  | none => w

/-- A key that has a session keeps it, and no session is made. -/
theorem sessionOf_of_session?_eq_some {w : Workspace} {key : String} {id : SessionId}
    (h : w.session? key = some id) : w.sessionOf key = (id, w) := by
  simp [sessionOf, h]

theorem session?_sessionOf (w : Workspace) (key : String) :
    (w.sessionOf key).2.session? key = some (w.sessionOf key).1 := by
  unfold sessionOf
  split
  · assumption
  · simp [session?]

end Workspace

/-- The store of a key. It is opened on a directory and registered if the key has none. -/
def Work.storeOf (key root : String) : Work StoreId := do
  match (← get).store? key with
  | some id => return id
  | none =>
    let id ← Work.openStore root
    let _ ← Work.make (·.addStoreAs key id)
    return id

end SchemaMigration
