import SchemaMigration.Buffer
import SchemaMigration.Column.Basic
import SchemaMigration.Script.Operation
import SchemaMigration.Script.Step

/-!
# Values of a session

The values that steps compute. Tables, columns, connections, buffers and functions are objects: a
value names one by its place in the session, so that two values may name the same object.

## Main definitions

* `Function` — the functions of the modules, the methods of objects, and those of scripts.
* `ScriptValue` — a value of a session.
* `Table` — the keys and values of a table object.
-/

namespace SchemaMigration

/-- A method that changes a column. -/
inductive Setter where
  | notNull | null | unique | unsigned | first | default | check | comment | after | append | length
deriving DecidableEq, Repr

namespace Setter

def all : List Setter :=
  [.notNull, .null, .unique, .unsigned, .first, .default, .check, .comment, .after, .append,
    .length]

def name : Setter → String
  | .notNull => "notNull"
  | .null => "null"
  | .unique => "unique"
  | .unsigned => "unsigned"
  | .first => "first"
  | .default => "default"
  | .check => "check"
  | .comment => "comment"
  | .after => "after"
  | .append => "append"
  | .length => "length"

/-- The default that a value gives: `NULL` for the absent value, 1 or 0 for a boolean, its text for
any other. -/
def defaultText : Value → String
  | .null => "NULL"
  | .bool b => (Value.bool b).literal
  | v => v.asText

/-- The change that a setter makes by its first argument. -/
def setting (a : Arguments) : Setter → Column.Setting
  | .notNull => .notNull
  | .null => .null
  | .unique => .unique
  | .unsigned => .unsigned
  | .first => .first
  | .default => .default (defaultText (a.get 0))
  | .check => .check (a.text 0)
  | .comment => .comment (a.text 0)
  | .after => .after (a.text 0)
  | .append => .append (a.text 0)
  | .length => .length (a.get 0)

end Setter

/-- A function. Methods take their object as first argument. -/
inductive Function where
  /-- A function of a script, by its place. -/
  | script (place : Nat)
  | print
  /-- Makes a column of a type. -/
  | factory (tag : String)
  /-- Makes a column of the type that its first argument names. -/
  | column
  /-- Makes a statement for the default connection. -/
  | statement (op : Operation)
  | comment
  | connection
  | log (level : String)
  | setColumn (setter : Setter)
  | columnCategory
  /-- Makes a statement for a connection. -/
  | connectionStatement (op : Operation)
  | connectionName
  | bufferWrite
  | bufferString
  | bufferReset
  | bufferLen
deriving DecidableEq, Repr

/-- A value of a session. Objects are named by their place. -/
inductive ScriptValue where
  | nil
  | bool (b : Bool)
  | int (n : Int)
  | float (x : Float)
  | text (s : ScriptText)
  | function (f : Function)
  | table (place : Nat)
  | column (place : Nat)
  | connection (place : Nat)
  | buffer (id : BufferId)
deriving DecidableEq, Repr, Inhabited

namespace ScriptValue

def ofString (s : String) : ScriptValue := .text (.valid s)

def ofOption : Option ScriptValue → ScriptValue
  | some v => v
  | none => .nil

/-- The whole number that a float is, if 64 bits hold it. -/
def wholeNumber? (x : Float) : Option Int :=
  match Decimal.Binary.ofFloat x with
  | .finite negative m e =>
    let n := m * Nat.pow 2 e.toNat
    let d := Nat.pow 2 (-e).toNat
    let i : Int := if negative then -(n / d : Nat) else (n / d : Nat)
    if n % d = 0 ∧ -0x8000000000000000 ≤ i ∧ i < 0x8000000000000000 then some i else none
  | _ => none

/-- The key that a value is in a table. Whole floats are integers; nil and NaN are no keys. -/
def key? : ScriptValue → Option ScriptValue
  | .nil => none
  | .float x =>
    if x.isNaN then none
    else
      match wholeNumber? x with
      | some n => some (.int n)
      | none => some (.float x)
  | v => some v

def isText : ScriptValue → Bool
  | .text _ => true
  | _ => false

/-- The text of a key: texts, numbers and booleans have one. -/
def keyText? : ScriptValue → Option String
  | .text s => some s.lossy
  | .int n => some (toString n)
  | .float x => some (Value.numberText x)
  | .bool b => some (if b then "true" else "false")
  | _ => none

end ScriptValue

/-- The keys and values of a table, with each key once and no value nil. -/
abbrev Table := List (ScriptValue × ScriptValue)

namespace Table

def get (t : Table) (key : ScriptValue) : ScriptValue :=
  match t with
  | [] => .nil
  | (k, v) :: rest => if k = key then v else get rest key

/-- Sets the value of a key. The value nil leaves the key out. -/
def set (t : Table) (key value : ScriptValue) : Table :=
  match t with
  | [] => if value = .nil then [] else [(key, value)]
  | (k, v) :: rest =>
    if k = key then if value = .nil then rest else (key, value) :: rest
    else (k, v) :: set rest key value

/-- The entries under the keys 1, 2, … of a list of values. -/
def ofItems (vs : List ScriptValue) : Table :=
  (vs.zipIdx 1).foldl (fun t (v, i) => set t (.int i) v) []

end Table

end SchemaMigration
