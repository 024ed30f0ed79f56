import SchemaMigration.Column.Type
import SchemaMigration.Statement.Table
import SchemaMigration.Value.Coercion

/-!
# The body of a table

The lines of `CREATE TABLE` from a value. A list gives its lines in order. A map gives the entries
under names first, as columns with the primary keys in front, and then the entries under numbers, in
the order of the numbers.
-/

namespace SchemaMigration.TableLine

/-- The number that a key denotes, if it fits 64 bits. -/
def indexOf? (key : String) : Option Nat := (Decimal.nat? key).filter (· < 0x10000000000000000)

/-- The line of an entry under a number: a column for a list of name and definition, a raw line for
a text that is not blank. -/
def lineOf? : Value → Option TableLine
  | .list (name :: definition :: _) => some (.column name.asText definition.asText)
  | .text line => if (Text.trim line).isEmpty then none else some (.raw line)
  | _ => none

/-- Holds for the characters of a type name in ASCII. -/
def isTagChar (c : Char) : Bool := c.isAlphanum || c == '_'

/-- Holds for a definition that starts with the name of a primary key type. -/
def isPkDefinition (definition : String) : Bool :=
  Category.ofTag (.ofList (definition.toList.takeWhile isTagChar)) = .pk

/-- The columns under names, primary keys first. -/
def namedColumns (fields : List (String × Value)) : List TableLine :=
  let named := (fields.filter fun (key, _) => (indexOf? key).isNone).map fun (key, v) =>
    (key, v.asText)
  let (keys, others) := named.partition fun (_, definition) => isPkDefinition definition
  (keys ++ others).map fun (name, definition) => .column name definition

/-- The entries under numbers, in their order. -/
def numberedEntries (fields : List (String × Value)) : List (Nat × Value) :=
  (fields.filterMap fun (key, v) => (indexOf? key).map (·, v)).mergeSort
    fun a b => a.1 ≤ b.1

def ofValue : Value → List TableLine
  | .list items => items.filterMap lineOf?
  | .map fields => namedColumns fields ++ (numberedEntries fields).filterMap (lineOf? ·.2)
  | _ => []

end SchemaMigration.TableLine
