import SchemaMigration.Dict

/-!
# Options

Reading the arguments of a command: options by their long or short names, with or without a value,
and operands. An option is given at most once. Of what does not fit no request is made.

## Main definitions

* `OptionSpec` — an option that a command has.
* `Given.read` — what the arguments of a command give.
-/

namespace SchemaMigration.CommandLine

inductive About where
  | version
  | help
deriving DecidableEq, Repr

/-- What an option is for. -/
inductive OptionKind where
  | flag
  | value
  /-- Asks for a text of the program about itself, at once. -/
  | about (a : About)
deriving DecidableEq, Repr

/-- An option: its long name, its letter and what it is for. -/
structure OptionSpec where
  long : String
  letter? : Option Char := none
  kind : OptionKind
deriving DecidableEq, Repr

/-- The options given, by their long names, and the operands. A flag has the empty value. -/
structure Given where
  options : Dict String := []
  operands : List String := []
deriving DecidableEq, Repr

/-- What reading options comes to. -/
inductive Reading where
  | done (g : Given)
  /-- The value of an option is the next argument. -/
  | awaits (long : String) (g : Given)
  | about (a : About)
deriving DecidableEq, Repr

namespace Given

/-- Adds an option. It must not be there yet. -/
def put? (g : Given) (long value : String) : Option Given :=
  if g.options.has long then none else some { g with options := g.options.insert long value }

/-- Reads letters of options. What follows the letter of an option with a value is the value, after
an equals sign or without one. -/
def readLetters (specs : List OptionSpec) (g : Given) : List Char → Option Reading
  | [] => some (.done g)
  | c :: cs => do
    let spec ← specs.find? (·.letter? == some c)
    match spec.kind, cs with
    | .about a, _ => return .about a
    | .flag, cs => readLetters specs (← g.put? spec.long "") cs
    | .value, [] => return .awaits spec.long g
    | .value, '=' :: value => return .done (← g.put? spec.long (.ofList value))
    | .value, value => return .done (← g.put? spec.long (.ofList value))

/-- Reads the long name of an option, perhaps with an equals sign and a value. -/
def readLong (specs : List OptionSpec) (g : Given) (cs : List Char) : Option Reading := do
  let name := cs.takeWhile (· != '=')
  let value? := (cs.dropWhile (· != '=')).tail?
  let spec ← specs.find? (·.long == .ofList name)
  match spec.kind, value? with
  | .about a, none => return .about a
  | .flag, none => return .done (← g.put? spec.long "")
  | .value, none => return .awaits spec.long g
  | .value, some value => return .done (← g.put? spec.long (.ofList value))
  | _, some _ => none

/-- Reads an argument that starts with a dash; of any other, and of a dash alone, there is nothing
to read. -/
def readOption (specs : List OptionSpec) (g : Given) (arg : String) : Option (Option Reading) :=
  match arg.toList with
  | '-' :: '-' :: cs => some (readLong specs g cs)
  | '-' :: c :: cs => some (readLetters specs g (c :: cs))
  | _ => none

/-- Holds for an argument that starts with a dash and is no dash alone. -/
def isOption (arg : String) : Bool :=
  match arg.toList with
  | '-' :: _ :: _ => true
  | _ => false

/-- What the arguments of a command give. After two dashes there are operands only. -/
def read (specs : List OptionSpec) (g : Given) : List String → Option Reading
  | [] => some (.done g)
  | "--" :: operands => some (.done { g with operands := g.operands ++ operands })
  | arg :: args =>
    match readOption specs g arg with
    | none => read specs { g with operands := g.operands ++ [arg] } args
    | some none => none
    | some (some (.about a)) => some (.about a)
    | some (some (.done g)) => read specs g args
    | some (some (.awaits long g)) =>
      match args with
      | [] => none
      | value :: args =>
        if isOption value then none
        else
          match g.put? long value with
          | some g => read specs g args
          | none => none

end Given

end SchemaMigration.CommandLine
