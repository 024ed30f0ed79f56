import SchemaMigration.Column.Type
import SchemaMigration.Value.Coercion

/-!
# Columns

The specification of one column: its type and what its definition says. A specification is built
from positional arguments and changed by setters, which are data (`Column.Setting`).
-/

namespace SchemaMigration

/-- A column specification. -/
structure Column where
  /-- The type name as given. A name of no type is kept, and the column has no definition. -/
  tag : String
  length : List Nat := []
  nullable : Bool := false
  isUnique : Bool := false
  isUnsigned : Bool := false
  /-- The default value, as it is written. -/
  default? : Option String := none
  /-- The check expression, as it is written. -/
  check? : Option String := none
  comment? : Option String := none
  isFirst : Bool := false
  /-- The column that this one follows. -/
  after? : Option String := none
  /-- Text at the end of the definition, as it is written. -/
  append? : Option String := none
deriving DecidableEq, Repr

namespace Column

/-! ## Types -/

def declaredType? (c : Column) : Option ColumnType := ColumnType.ofTag? c.tag

/-- The type of the definition. -/
def type? (c : Column) : Option ColumnType :=
  c.declaredType?.map fun t => if c.isUnsigned then t.unsigned else t

def isKnown (c : Column) : Bool := c.declaredType?.isSome

def category (c : Column) : Category := .ofTag c.tag

/-! ## Lengths -/

/-- The parts of a length: the items of a list or map, the parts of a text between commas, or the
value itself. -/
def lengthParts : Value → List Value
  | .list items => items
  | .map fields => fields.map Prod.snd
  | .text s => (Text.split ',' s).map fun part => .text (Text.trim part)
  | v => [v]

/-- The length that a value gives: its first two parts, if all of these are positive numbers. -/
def readLength (v : Value) : List Nat :=
  (((lengthParts v).take 2).mapM Value.asPositive?).getD []

/-- The length that a value gives to a type name: the default of the type if it gives none. -/
def lengthFor (tag : String) (v : Value) : List Nat :=
  if (readLength v).isEmpty then ((ColumnType.ofTag? tag).map ColumnType.defaultLength).getD []
  else readLength v

/-! ## Building -/

/-- A column of a type, with the default length. -/
def ofTag (tag : String) : Column :=
  { tag, length := ((ColumnType.ofTag? tag).map ColumnType.defaultLength).getD [] }

/-- A column of a type with positional arguments: length, default and comment. An absent default
and an empty comment do not count. -/
def ofArgs (tag : String) (args : List Value) : Column where
  tag
  length := lengthFor tag (args[0]?.getD .null)
  default? := (args[1]?.filter (!·.isNull)).map Value.asText
  comment? := (args[2]?.filter (!·.isEmpty)).map Value.asText

inductive Setting where
  | length (v : Value)
  | notNull
  | null
  | unique
  | unsigned
  | first
  | default (s : String)
  | check (s : String)
  | comment (s : String)
  | after (column : String)
  | append (sql : String)
deriving Inhabited

def set (c : Column) : Setting → Column
  | .length v => { c with length := lengthFor c.tag v }
  | .notNull => { c with nullable := false }
  | .null => { c with nullable := true }
  | .unique => { c with isUnique := true }
  | .unsigned => { c with isUnsigned := true }
  | .first => { c with isFirst := true }
  | .default s => { c with default? := some s }
  | .check s => { c with check? := some s }
  | .comment s => { c with comment? := some s }
  | .after column => { c with after? := some column }
  | .append sql => { c with append? := some sql }

end Column

end SchemaMigration
