import SchemaMigration.CommandLine.Options
import SchemaMigration.Connection.Option
import SchemaMigration.Migration.VersionIndex

/-!
# Requests

What the command line asks for: one of three commands, or a text of the program about itself.

## Main definitions

* `Command` — renders a file, lists a source, or shows a version of it.
* `Request.parse` — the request of a list of arguments.
-/

namespace SchemaMigration.CommandLine

inductive Command where
  /-- The SQL of an entry of a script file. -/
  | render (file method : String)
  /-- The versions of a source. -/
  | list (source : String)
  /-- The SQL that applies or reverts a version of a source. -/
  | display (source : String) (version : Nat) (down : Bool)
deriving DecidableEq, Repr

inductive Request where
  | run (c : Command)
  | about (a : About)
deriving DecidableEq, Repr

namespace Request

def helpOption : OptionSpec := ⟨"help", some 'h', .about .help⟩

def programOptions : List OptionSpec :=
  [⟨"verbose", some 'v', .flag⟩, ⟨"version", some 'V', .about .version⟩, helpOption]

def renderOptions : List OptionSpec := [⟨"method", some 'm', .value⟩, helpOption]

def listOptions : List OptionSpec := [⟨"source", some 's', .value⟩, helpOption]

def displayOptions : List OptionSpec :=
  [⟨"source", some 's', .value⟩, ⟨"version", none, .value⟩, ⟨"down", some 'd', .flag⟩, helpOption]

def defaultMethod : String := "up"

def sourceVariable : String := "LUA_MIGRATE_SOURCE"

/-- The source that was given, or else that of the environment. -/
def source? (env : Environment) (g : Given) : Option String :=
  match g.options.get? "source" with
  | some source => some source
  | none => env.get? sourceVariable

def command? (env : Environment) (name : String) (g : Given) : Option Command := do
  match name, g.operands with
  | "render", [file] =>
    if file.isEmpty then none
    else return .render file ((g.options.get? "method").getD defaultMethod)
  | "list", [] => return .list (← source? env g)
  | "show", [] =>
    let source ← source? env g
    let version ← VersionIndex.versionOfText? (← g.options.get? "version")
    return .display source version (g.options.has "down")
  | _, _ => none

def optionsOf? (name : String) : Option (List OptionSpec) :=
  Dict.get? [("render", renderOptions), ("list", listOptions), ("show", displayOptions)] name

def ofCommand? (env : Environment) (name : String) (args : List String) : Option Request := do
  match ← Given.read (← optionsOf? name) {} args with
  | .done g => return .run (← command? env name g)
  | .about a => return .about a
  | .awaits _ _ => none

/-- The request of arguments after the program's own options. -/
def parseFrom (env : Environment) (g : Given) : List String → Option Request
  | [] => none
  | arg :: args =>
    match Given.readOption programOptions g arg with
    | some (some (.done g)) => parseFrom env g args
    | some (some (.about a)) => some (.about a)
    | some _ => none
    | none =>
      if arg = "help" then
        match args with
        | [] => some (.about .help)
        | [name] => (optionsOf? name).map fun _ => .about .help
        | _ => none
      else ofCommand? env arg args

def parse (env : Environment) (args : List String) : Option Request := parseFrom env {} args

end Request

end SchemaMigration.CommandLine
