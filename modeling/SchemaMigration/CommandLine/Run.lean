import SchemaMigration.CommandLine.EnvironmentFile
import SchemaMigration.CommandLine.Request
import SchemaMigration.Migration.Driver

/-!
# Running commands

What the program prints for a command, and why it fails.

## Main definitions

* `Command.run` — the output of a command.
* `CommandLine.run` — the result of the program for its arguments.
-/

namespace SchemaMigration.CommandLine

inductive Failure where
  | migration (e : MigrationError)
  /-- The file to render has no name. -/
  | notScriptFile (file : String)
deriving DecidableEq, Repr

def Failure.message : Failure → String
  | .migration e => e.message
  | .notScriptFile file => "not a script file: " ++ file

inductive Result where
  | output (text : String)
  | failed (f : Failure)
  /-- The arguments are wrong. -/
  | misused
deriving DecidableEq, Repr

def Result.code : Result → Nat
  | .output _ => 0
  | .failed _ => 1
  | .misused => 2

def programName : String := "lua-migrate"

def About.text : About → String
  | .version => programName ++ " 0.1.0\n"
  | .help =>
    "Usage: " ++ programName ++ " [--verbose] <command>\n\n" ++
      "  render <file> [--method <method>]\n" ++
      "  list --source <source>\n" ++
      "  show --source <source> --version <version> [--down]\n"

/-! ## Commands -/

/-- Runs a computation to its end, whatever it comes to. -/
def observe {α : Type} (x : Work α) : Work (Except MigrationError α) := ExceptT.lift x.run

def renderSession : String := "cli"

def directory (file : String) : String :=
  let parent := Path.parent file
  if parent.isEmpty then "." else parent

def renderScript (root name method : String) : Work String := do
  let store ← Work.openStore root
  let session ← Work.make (·.sessionOf renderSession)
  let adapter ← Work.bindNew store session name
  let rendered ← observe (Work.read adapter method)
  Work.close adapter
  modify (·.closeStore store)
  return (← rendered).sql

/-- A number with blanks in front, up to a width of 14. -/
def versionColumn (version : Nat) : String :=
  let digits := toString version
  .ofList (List.replicate (14 - digits.length) ' ') ++ digits

def listingLine (entry : Nat × String) : String :=
  " " ++ versionColumn entry.1 ++ "  " ++ entry.2 ++ "\n"

/-- The lines about the versions of a source, none if it has no version. -/
def listing (index : VersionIndex) : String :=
  if index.isEmpty then ""
  else
    "\nMigrations:\n" ++ .ofList (List.replicate 60 '-') ++ "\n" ++
      String.join (index.map listingLine) ++ "\n"

def listVersions (source : String) : Work String := do
  let d ← Driver.openUrl source
  d.close
  return listing d.migrations

def displayVersion (source : String) (version : Nat) (down : Bool) : Work String := do
  let d ← Driver.openUrl source
  let rendered ← observe (d.read version (if down then EntryName.safeDown else EntryName.safeUp))
  d.close
  return (← rendered).sql

def Command.work : Command → Except Failure (Work String)
  | .render file method =>
    match Path.fileName? file with
    | some name => .ok (renderScript (directory file) name method)
    | none => .error (.notScriptFile file)
  | .list source => .ok (listVersions source)
  | .display source version down => .ok (displayVersion source version down)

def Command.run (w : Workspace) (c : Command) : Except Failure String := do
  (((← c.work).run.run w).1).mapError .migration

/-! ## The program -/

def environmentFile : String := ".env"

/-- The environment file of a directory, or of the nearest one above it that has one. -/
def environmentFile? (files : FileTree) (at' : Location) : Option FileId :=
  match files.node? (environmentFile :: at'), at' with
  | some (.file id), _ => some id
  | _, [] => none
  | _, _ :: up => environmentFile? files up

/-- The environment with the variables of the environment file, if there is one. -/
def environment (files : FileTree) (env : Environment) : Environment :=
  match environmentFile? files files.current with
  | some id =>
    match (files.read id).text? with
    | some text => EnvironmentFile.extend env text
    | none => env
  | none => env

/-- The result of the program for its arguments, in a directory and an environment. Its sessions go
through tables in some order. -/
def run (orders : SessionId → TableOrder) (files : FileTree) (env : Environment)
    (args : List String) : Result :=
  let env := environment files env
  match Request.parse env args with
  | none => .misused
  | some (.about a) => .output a.text
  | some (.run c) =>
    match c.run { files, context := .make env .usual .usual, orders } with
    | .ok text => .output text
    | .error f => .failed f

end SchemaMigration.CommandLine
