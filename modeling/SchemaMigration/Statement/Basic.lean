import SchemaMigration.Expression
import SchemaMigration.Identifier
import SchemaMigration.TypeMap

/-!
# Statements

A statement is put together from parts: fixed words, and names that are quoted when the statement is
written. A `StatementBuilder` holds what writing needs: the quoter, the column types and the
expression builders.
-/

namespace SchemaMigration

/-- A part of a statement. -/
inductive Part where
  /-- Text that is written as it is. -/
  | text (s : String)
  /-- The name of a table, an index or a constraint. -/
  | table (name : String)
  /-- The name of a column. -/
  | column (name : String)
  /-- A list of column names. -/
  | columns (names : List String)
deriving DecidableEq, Repr

instance : Coe String Part := ⟨.text⟩

/-- The text of a part. -/
def Part.write (q : Quoter) : Part → String
  | .text s => s
  | .table name => q.table name
  | .column name => q.column name
  | .columns names => q.columns names

/-- Writes statements for one connection. -/
structure StatementBuilder where
  quoter : Quoter := {}
  types : TypeMap := .usual
  expressions : ExpressionRegistry := .usual
deriving Inhabited

namespace StatementBuilder

def write (b : StatementBuilder) (parts : List Part) : String :=
  String.join (parts.map (Part.write b.quoter))

def quoteValue (s : String) : String := Value.quoteText s

/-- The text without white space at its ends and then without commas and white space after them. -/
def dropSeparators (s : String) : String := Text.trimEnd (Text.dropEnd ',' (Text.trim s))

/-- The physical type of a column definition, which may end in separators. -/
def columnType (b : StatementBuilder) (definition : String) : String :=
  b.types.resolve (dropSeparators definition)

end StatementBuilder

end SchemaMigration
