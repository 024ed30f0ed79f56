import SchemaMigration.Files.Tree

/-!
# Script stores

A store is a directory of scripts. Scripts are opened by name and read through a handle, which does
not depend on the name any more. A closed store opens and lists nothing, and a directory that a
store was opened on need not let its names be listed.
-/

namespace SchemaMigration

structure ScriptStore where
  root : String
  closed : Bool := false
deriving DecidableEq, Repr, Inhabited

/-- An open script: its name in the store, its path, and what the path named when it was opened. -/
structure ScriptHandle where
  name : String
  path : String
  node : Node
deriving DecidableEq, Repr

namespace ScriptStore

def openAt (t : FileTree) (root : String) : Except MigrationError ScriptStore :=
  if t.isDirectory root then .ok { root }
  else .error (.configuration (.directoryNotFound root))

def ensureOpen (s : ScriptStore) : Except MigrationError Unit :=
  if s.closed then .error (.configuration (.directoryClosed s.root)) else .ok ()

/-- Opens a script. A directory can be opened, but not read. -/
def openScript (t : FileTree) (s : ScriptStore) (name : String) :
    Except MigrationError ScriptHandle := do
  s.ensureOpen
  let path := Path.join s.root name
  match t.find path with
  | .ok (_, node) => return { name, path, node }
  | .error e => throw (.scriptLoad path e)

def list (t : FileTree) (s : ScriptStore) : Except MigrationError (List String) := do
  s.ensureOpen
  match t.find s.root with
  | .ok (at', .directory) => (t.list at').mapError .file
  | .ok (_, .file _) => throw (.file .notDirectory)
  | .error e => throw (.file e)

end ScriptStore

def ScriptHandle.read (t : FileTree) (h : ScriptHandle) : Except MigrationError Script :=
  match h.node with
  | .file id => .ok (t.read id)
  | .directory => .error (.scriptLoad h.path .isDirectory)

end SchemaMigration
