import SchemaMigration.CommandLine.Run
import SchemaMigration.Files.Bundle

/-!
# What a command works on

The program reads the files and the environment of a command from one JSON document, an object with
the members `files` and `env`, each of which may be missing.
-/

namespace SchemaMigration.CommandLine

/-- The files and the environment that a command works on. -/
structure Bundle where
  files : FileTree := {}
  environment : Environment := []
deriving Inhabited

namespace Bundle

def setting? : String × Json → Option (String × String)
  | (name, .text value) => some (name, value)
  | _ => none

def environment? : Option Json → Option Environment
  | none | some .null => some []
  | some (.object members) => (members.mapM setting?).map Dict.ofList
  | some _ => none

def files? : Option Json → Option FileTree
  | none | some .null => some {}
  | some (.array items) => FileTree.ofJson? items
  | some _ => none

/-- The bundle of a text. A blank text is the empty bundle. -/
def ofText? (s : String) : Option Bundle := do
  if (Text.trim s).isEmpty then return {}
  let j ← Json.read s
  return { files := ← files? (j.member? "files"), environment := ← environment? (j.member? "env") }

end Bundle

end SchemaMigration.CommandLine
