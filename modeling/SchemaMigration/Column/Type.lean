/-!
# Column types

The abstract types of a column, with the class, the default length and the unsigned variant of
each.
-/

namespace SchemaMigration

/-- What kind of data a column holds. It selects the clauses of a definition. -/
inductive Category where
  /-- Keys that count up by themselves. -/
  | pk
  /-- Character data. -/
  | string
  /-- Integers, decimals, floats, booleans and money. -/
  | numeric
  /-- Dates and times. -/
  | time
  | other
deriving DecidableEq, Repr

def Category.name : Category → String
  | .pk => "pk"
  | .string => "string"
  | .numeric => "numeric"
  | .time => "time"
  | .other => "other"

/-- An abstract column type. -/
inductive ColumnType where
  | pk | upk | bigpk | ubigpk
  | char | string | text
  | tinyint | smallint | integer | bigint
  | float | double | decimal
  | datetime | timestamp | time | date
  | binary | bool | money
deriving DecidableEq, Repr

namespace ColumnType

def all : List ColumnType :=
  [.pk, .upk, .bigpk, .ubigpk, .char, .string, .text, .tinyint, .smallint, .integer, .bigint,
    .float, .double, .decimal, .datetime, .timestamp, .time, .date, .binary, .bool, .money]

def tag : ColumnType → String
  | .pk => "pk"
  | .upk => "upk"
  | .bigpk => "bigpk"
  | .ubigpk => "ubigpk"
  | .char => "char"
  | .string => "string"
  | .text => "text"
  | .tinyint => "tinyint"
  | .smallint => "smallint"
  | .integer => "integer"
  | .bigint => "bigint"
  | .float => "float"
  | .double => "double"
  | .decimal => "decimal"
  | .datetime => "datetime"
  | .timestamp => "timestamp"
  | .time => "time"
  | .date => "date"
  | .binary => "binary"
  | .bool => "bool"
  | .money => "money"

def ofTag? (s : String) : Option ColumnType := all.find? (·.tag == s)

theorem ofTag?_tag (t : ColumnType) : ofTag? t.tag = some t := by cases t <;> decide

theorem tag_of_ofTag? {s : String} {t : ColumnType} (h : ofTag? s = some t) : t.tag = s := by
  simpa using List.find?_some h

def category : ColumnType → Category
  | .pk | .upk | .bigpk | .ubigpk => .pk
  | .char | .string | .text => .string
  | .tinyint | .smallint | .integer | .bigint | .float | .double | .decimal | .bool | .money =>
    .numeric
  | .datetime | .timestamp | .time | .date => .time
  | .binary => .other

def defaultLength : ColumnType → List Nat
  | .string => [255]
  | .integer | .decimal | .money => [12]
  | .bigint => [20]
  | .smallint => [2]
  | .timestamp => [11]
  | _ => []

/-- The unsigned variant of a primary key. Every other type stays as it is. -/
def unsigned : ColumnType → ColumnType
  | .pk => .upk
  | .bigpk => .ubigpk
  | t => t

def isPk (t : ColumnType) : Bool := t.category = .pk

end ColumnType

def Category.ofTag (tag : String) : Category :=
  ((ColumnType.ofTag? tag).map ColumnType.category).getD .other

end SchemaMigration
