import SchemaMigration.Text.Basic

/-!
# Paths

The names of files and directories. A path is a text with slashes between its parts; empty parts and
dots do not count, except for a dot at the start of a relative path.

## Main definitions

* `Path.join` — a name below a directory.
* `Path.parts` — the parts that count.
* `Path.fileName?`, `Path.stem?`, `Path.parent` — the last part, its base name, and what is before.
-/

namespace SchemaMigration.Path

def isAbsolute (path : String) : Bool := path.toList.head? == some '/'

/-- A path below another. An absolute path stays as it is. -/
def join (root path : String) : String :=
  if isAbsolute path || root.isEmpty then path
  else if root.toList.getLast? == some '/' then root ++ path
  else root ++ "/" ++ path

/-- Holds for the parts that count after the first. -/
def counts (part : List Char) : Bool := !part.isEmpty && part != ['.']

/-- The parts that count, without the root. -/
def parts (path : String) : List (List Char) :=
  match Chars.splitOn '/' path.toList with
  | [] => []
  | part :: rest => (if part.isEmpty then [] else [part]) ++ rest.filter counts

/-- The last part, if it is a name. -/
def fileName? (path : String) : Option String :=
  (parts path).getLast?.bind fun part =>
    if part = ['.'] ∨ part = ['.', '.'] then none else some (.ofList part)

/-- A name without the part from its last dot on. A dot at the start does not count. -/
def baseName (name : List Char) : List Char :=
  match Chars.cut? '.' name.reverse with
  | some (_, before) => if before.isEmpty then name else before.reverse
  | none => name

/-- The base name of the last part, if it is a name. -/
def stem? (path : String) : Option String :=
  (fileName? path).map fun name => .ofList (baseName name.toList)

/-- The text without the slashes, and parts that are dots, at its end. -/
def trimParts : Nat → List Char → List Char
  | 0, cs => cs
  | fuel + 1, cs =>
    match Chars.stripEnd? ['/'] cs, Chars.stripEnd? ['/', '.'] cs with
    | some [], _ => cs
    | some rest, _ => trimParts fuel rest
    | none, some [] => ['/']
    | none, some rest => trimParts fuel rest
    | none, none => cs

/-- What is before the last part, if it is a name. -/
def parent (path : String) : String :=
  let cs := trimParts path.toList.length path.toList
  let before := Chars.dropEndWhile (· != '/') cs
  .ofList (trimParts before.length before)

/-- The identifier of a migration: the base name of its script, or the name itself if it has
none. -/
def identifier (name : String) : String := (stem? name).getD name

end SchemaMigration.Path
