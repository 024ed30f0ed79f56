import SchemaMigration.Error
import SchemaMigration.Files.Path
import SchemaMigration.Script.Step

/-!
# Files

Directories and script files, from the root down. A file has an identity of its own, apart from its
name: an open script still reads a file that was removed, and sees what was written to it.

Of a file system only what opening, reading and listing need is here. There are no links, names are
texts, and the one thing that may be refused is listing a directory: whatever is at a path can be
opened.

## Main definitions

* `FileTree` — names, and the contents of files.
* `FileTree.find`, `FileTree.list` — what is at a path, and what a directory lists.
* `FileTree.write`, `FileTree.remove`, `FileTree.removeDirectory` — changes.
-/

namespace SchemaMigration

structure FileId where
  index : Nat
deriving DecidableEq, Repr, Inhabited

inductive Node where
  | directory
  | file (id : FileId)
deriving DecidableEq, Repr

/-- The names on the way from the root, the last one first. -/
abbrev Location := List String

/-- Names, and the contents of files. -/
structure FileTree where
  nodes : List (Location × Node) := []
  contents : Array Script := #[]
  /-- The working directory, where relative paths start. -/
  current : Location := []
  /-- The directories that cannot be listed, and why. -/
  unlisted : List (Location × FileError) := []
deriving Inhabited

namespace FileTree

/-- What is at a location. The root is the empty location. -/
def node? (t : FileTree) (at' : Location) : Option Node :=
  if at'.isEmpty then some .directory else t.nodes.lookup at'

def maxNameBytes : Nat := 255

/-- Walks from a directory along parts. What is no directory has nothing below it, and the root is
above itself. -/
def walk (t : FileTree) (at' : Location) : List String → Except FileError (Location × Node)
  | [] => .ok (at', .directory)
  | part :: parts =>
    if part = "" ∨ part = "." then t.walk at' parts
    else if part = ".." then t.walk at'.tail parts
    else if maxNameBytes < part.utf8ByteSize then .error .nameTooLong
    else
      match t.node? (part :: at') with
      | none => .error .notFound
      | some .directory => t.walk (part :: at') parts
      | some (.file id) =>
        if parts.isEmpty then .ok (part :: at', .file id) else .error .notDirectory

def start (t : FileTree) (path : String) : Location :=
  if Path.isAbsolute path then [] else t.current

def find (t : FileTree) (path : String) : Except FileError (Location × Node) :=
  if Text.has '\x00' path then .error .invalidName
  else if path.isEmpty then .error .notFound
  else t.walk (t.start path) (Text.split '/' path)

def isDirectory (t : FileTree) (path : String) : Bool :=
  match t.find path with
  | .ok (_, .directory) => true
  | _ => false

/-- The names of the files right below a directory, in order. -/
def fileNames (t : FileTree) (at' : Location) : List String :=
  (t.nodes.filterMap fun
    | (name :: up, .file _) => if up = at' then some name else none
    | _ => none).mergeSort

def list (t : FileTree) (at' : Location) : Except FileError (List String) :=
  match t.unlisted.lookup at' with
  | some e => .error e
  | none => .ok (t.fileNames at')

def read (t : FileTree) (id : FileId) : Script := t.contents[id.index]?.getD .empty

/-- The location that the parts of a path name, whether or not there is anything. -/
def locate (t : FileTree) (path : String) : Location :=
  (Text.split '/' path).foldl (fun at' part =>
    if part = "" ∨ part = "." then at' else if part = ".." then at'.tail else part :: at')
    (t.start path)

def makeDirectories (t : FileTree) : Location → FileTree
  | [] => t
  | part :: up =>
    let t := t.makeDirectories up
    if (t.node? (part :: up)).isSome then t
    else { t with nodes := t.nodes ++ [(part :: up, .directory)] }

/-- Makes a directory, and those above it. -/
def makeDirectory (t : FileTree) (path : String) : FileTree :=
  t.makeDirectories (t.locate path)

/-- Writes a file in place, or a new one with the directories above it. -/
def write (t : FileTree) (path : String) (s : Script) : FileTree :=
  let at' := t.locate path
  match t.node? at' with
  | some (.file id) => { t with contents := t.contents.setIfInBounds id.index s }
  | some .directory => t
  | none =>
    let t := t.makeDirectories at'.tail
    { t with
      nodes := t.nodes ++ [(at', .file ⟨t.contents.size⟩)]
      contents := t.contents.push s }

def remove (t : FileTree) (path : String) : FileTree :=
  let at' := t.locate path
  { t with nodes := t.nodes.filter fun (l, n) => !(l = at' && n != .directory) }

/-- Removes a directory with all that is below it. -/
def removeDirectory (t : FileTree) (path : String) : FileTree :=
  let at' := t.locate path
  { t with nodes := t.nodes.filter fun (l, _) => !at'.isSuffixOf l }

end FileTree

end SchemaMigration
