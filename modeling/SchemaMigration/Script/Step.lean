import SchemaMigration.Text.Basic
import SchemaMigration.Text.Utf8

/-!
# Scripts

A migration script is a list of steps. A step calls functions of the session's modules, uses the
objects that they return, and keeps values in variables. What a step does is said where it is
evaluated.

Steps follow one another: branches, loops and coroutines are left out, and so is the library of the
interpreter, apart from `print`. Metatables are left out, apart from one that a script can give to
the table of global names: it keeps names from being added.

## Main definitions

* `ScriptText` — a text of a script, which need not be valid UTF-8.
* `Term`, `Step` — what is evaluated to a value, and what is done.
* `Program`, `Script` — the contents of a script file.
-/

namespace SchemaMigration

/-- A text of a script. Bytes that are a text are kept as that text. -/
inductive ScriptText where
  | valid (s : String)
  | invalid (bytes : List UInt8)
deriving DecidableEq, Repr, Inhabited

namespace ScriptText

def ofBytes (bytes : List UInt8) : ScriptText :=
  match Utf8.decode? bytes with
  | some cs => .valid (.ofList cs)
  | none => .invalid bytes

/-- The text, with U+FFFD for what is no character. -/
def lossy : ScriptText → String
  | .valid s => s
  | .invalid bytes => .ofList (Utf8.decodeLossy bytes)

end ScriptText

/-- A term of a script. -/
inductive Term where
  | nil
  | bool (b : Bool)
  | int (n : Int)
  | float (x : Float)
  | text (s : ScriptText)
  /-- A function that does nothing. -/
  | function
  /-- The value of a variable of the session. -/
  | var (name : String)
  /-- The value of a global name. -/
  | global (name : String)
  /-- A new table with keys from 1 on. -/
  | array (items : List Term)
  /-- A new table with given keys. -/
  | table (entries : List (Term × Term))
  /-- A new column: a factory of the module, its arguments, and setters with theirs. -/
  | column (factory : String) (args : List Term) (settings : List (String × List Term))
deriving Inhabited

/-- A step of a script. Where it has a `target`, its result is kept in that variable. -/
inductive Step where
  /-- Calls a function of the `migrate` module. -/
  | call (function : String) (args : List Term) (target : Option String)
  /-- Calls a method of an object. -/
  | method (name : String) (on : Term) (args : List Term) (target : Option String)
  /-- Calls a member of an object without passing the object. -/
  | member (name : String) (on : Term) (args : List Term) (target : Option String)
  | value (term : Term) (target : Option String)
  | setGlobal (name : String) (term : Term)
  /-- Gives the table of global names a metatable whose `__newindex` does nothing. -/
  | guardGlobals
  /-- Sets a key of a table. -/
  | put (table key value : Term)
  /-- Adds one to a variable. -/
  | increment (name : String)
  /-- The text of an object. -/
  | describe (term : Term)
  /-- Calls a function of the `logger` module. -/
  | log (level : String) (args : List Term)
  /-- Stops the script. -/
  | fail (message : String)
  /-- Does steps up to the first that fails. -/
  | attempt (steps : List Step)
deriving Inhabited

/-- What stands under a name of a script's entry table. -/
inductive Entry where
  | function (body : List Step)
  | value (term : Term)
deriving Inhabited

/-- What a script answers when it is evaluated. -/
inductive Answer where
  /-- The entry table. -/
  | entries
  | nothing
  | value (term : Term)
deriving Inhabited

/-- A script that can be evaluated: its entry table, the steps of its top level, the global name
that it gives to the entry table, and its answer. -/
structure Program where
  entries : List (String × Entry) := []
  top : List Step := []
  global? : Option String := none
  answer : Answer := .entries
deriving Inhabited

/-- The contents of a script file. -/
inductive Script where
  | empty
  /-- A text that is no script. -/
  | malformed (text : String)
  | program (p : Program)
deriving Inhabited

def Script.text? : Script → Option String
  | .empty => some ""
  | .malformed text => some text
  | .program _ => none

end SchemaMigration
