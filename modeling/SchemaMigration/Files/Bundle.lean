import SchemaMigration.Files.Tree
import SchemaMigration.Script.Reader

/-!
# Bundles of files

Files can be given as one JSON document: a list of objects with a `path`, each a directory or a
file.
-/

namespace SchemaMigration.FileTree

def add? (t : FileTree) (j : Json) : Option FileTree := do
  let path ← j.text? "path"
  if let some (.bool true) := j.member? "dir" then return t.makeDirectory path
  else return t.write path (← Script.ofJson? j)

/-- The files of a list of documents, in a working directory of their own. -/
def ofJson? (items : List Json) : Option FileTree :=
  items.foldlM add? { nodes := [(["work"], .directory)], current := ["work"] }

end SchemaMigration.FileTree
