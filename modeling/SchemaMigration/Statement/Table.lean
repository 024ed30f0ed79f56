import SchemaMigration.Statement.Basic

/-!
# Statements on tables, columns, indexes and constraints
-/

namespace SchemaMigration

/-- What happens to the rows that refer to a row that changes. -/
inductive ForeignKeyAction where
  | noAction
  | restrict
  | cascade
  | setNull
  | setDefault
deriving DecidableEq, Repr

namespace ForeignKeyAction

def sql : ForeignKeyAction → String
  | .noAction => "NO ACTION"
  | .restrict => "RESTRICT"
  | .cascade => "CASCADE"
  | .setNull => "SET NULL"
  | .setDefault => "SET DEFAULT"

def all : List ForeignKeyAction := [.noAction, .restrict, .cascade, .setNull, .setDefault]

/-- The letters A to Z of a text, in capital form. -/
def letters (s : String) : List Char := (s.toList.filter Char.isAlpha).map Char.toUpper

/-- The action that a text names. Only its letters count. -/
def ofText? (s : String) : Option ForeignKeyAction := all.find? (letters ·.sql == letters s)

end ForeignKeyAction

/-- A line of the body of `CREATE TABLE`. -/
inductive TableLine where
  /-- A column with its abstract definition. -/
  | column (name definition : String)
  /-- A line that is written as it is. -/
  | raw (line : String)
deriving DecidableEq, Repr

namespace StatementBuilder

/-! ## Tables -/

/-- The text of a line. A column without a type and a blank line have none. -/
def tableLine? (b : StatementBuilder) : TableLine → Option String
  | .column name definition =>
    let physical := Text.trim (b.columnType definition)
    if physical.isEmpty then none else some ("\t" ++ b.quoter.column name ++ " " ++ physical)
  | .raw line =>
    let line := dropSeparators line
    if line.isEmpty then none else some ("\t" ++ line)

/-- Creates a table. Its options follow the closing parenthesis. -/
def createTable (b : StatementBuilder) (table : String) (lines : List TableLine)
    (options : Option String) : String :=
  let options := ((options.map Text.trim).filter (!·.isEmpty)).map (" " ++ ·)
  b.write ["CREATE TABLE ", .table table, " (\n",
    ",\n".intercalate (lines.filterMap b.tableLine?), "\n)", options.getD ""]

def renameTable (b : StatementBuilder) (old new : String) : String :=
  b.write ["RENAME TABLE ", .table old, " TO ", .table new]

def dropTable (b : StatementBuilder) (table : String) : String :=
  b.write ["DROP TABLE ", .table table]

def truncateTable (b : StatementBuilder) (table : String) : String :=
  b.write ["TRUNCATE TABLE ", .table table]

/-! ## Columns -/

def addColumn (b : StatementBuilder) (table column definition : String) : String :=
  b.write ["ALTER TABLE ", .table table, " ADD ", .column column, " ", b.columnType definition]

def renameColumn (b : StatementBuilder) (table old new : String) : String :=
  b.write ["ALTER TABLE ", .table table, " RENAME COLUMN ", .column old, " TO ", .column new]

def alterColumn (b : StatementBuilder) (table column definition : String) : String :=
  b.write ["ALTER TABLE ", .table table, " CHANGE ", .column column, " ", .column column, " ",
    b.columnType definition]

def alterColumnComment (b : StatementBuilder) (table column definition comment : String) :
    String :=
  b.alterColumn table column definition ++ " COMMENT " ++ quoteValue comment

def dropColumn (b : StatementBuilder) (table column : String) : String :=
  b.write ["ALTER TABLE ", .table table, " DROP COLUMN ", .column column]

/-! ## Indexes and constraints -/

def createIndex (b : StatementBuilder) (name table : String) (columns : List String)
    (unique : Bool) : String :=
  b.write [if unique then "CREATE UNIQUE INDEX " else "CREATE INDEX ", .table name, " ON ",
    .table table, " (", .columns columns, ")"]

def dropIndex (b : StatementBuilder) (name table : String) : String :=
  b.write ["DROP INDEX ", .table name, " ON ", .table table]

/-- Adds a constraint of a kind on columns. -/
def addConstraint (b : StatementBuilder) (kind name table : String) (columns : List String) :
    String :=
  b.write ["ALTER TABLE ", .table table, " ADD CONSTRAINT ", .column name, " ", kind, " (",
    .columns columns, ")"]

def dropConstraint (b : StatementBuilder) (name table : String) : String :=
  b.write ["ALTER TABLE ", .table table, " DROP CONSTRAINT ", .column name]

def addPrimaryKey (b : StatementBuilder) (name table : String) (columns : List String) : String :=
  b.addConstraint "PRIMARY KEY" name table columns

def addUnique (b : StatementBuilder) (name table : String) (columns : List String) : String :=
  b.addConstraint "UNIQUE" name table columns

/-- Adds a constraint by an expression, which is written as it is. -/
def addCheck (b : StatementBuilder) (name table expression : String) : String :=
  b.write ["ALTER TABLE ", .table table, " ADD CONSTRAINT ", .column name, " CHECK (",
    Text.trim expression, ")"]

def actionClause (event : String) : Option ForeignKeyAction → String
  | some action => event ++ action.sql
  | none => ""

def addForeignKey (b : StatementBuilder) (name table : String) (columns : List String)
    (refTable : String) (refColumns : List String) (onDelete onUpdate : Option ForeignKeyAction) :
    String :=
  b.write ["ALTER TABLE ", .table table, " ADD CONSTRAINT ", .table name, " FOREIGN KEY (",
    .columns columns, ") REFERENCES ", .table refTable, " (", .columns refColumns, ")",
    actionClause " ON DELETE " onDelete, actionClause " ON UPDATE " onUpdate]

def dropForeignKey (b : StatementBuilder) (name table : String) : String :=
  b.write ["ALTER TABLE ", .table table, " DROP CONSTRAINT ", .table name]

/-! ## Comments -/

def addCommentOnTable (b : StatementBuilder) (table comment : String) : String :=
  b.write ["COMMENT ON TABLE ", .table table, " IS ", quoteValue comment]

def addCommentOnColumn (b : StatementBuilder) (table column comment : String) : String :=
  b.write ["COMMENT ON COLUMN ", .table table, ".", .column column, " IS ", quoteValue comment]

def dropCommentFromTable (b : StatementBuilder) (table : String) : String :=
  b.write ["COMMENT ON TABLE ", .table table, " IS NULL"]

def dropCommentFromColumn (b : StatementBuilder) (table column : String) : String :=
  b.write ["COMMENT ON COLUMN ", .table table, ".", .column column, " IS NULL"]

end StatementBuilder

end SchemaMigration
