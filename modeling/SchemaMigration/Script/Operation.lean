import SchemaMigration.Script.Arguments
import SchemaMigration.Statement.Body
import SchemaMigration.Statement.Row

/-!
# Statement functions

The functions by which a script makes statements. Each reads its arguments by position and writes
one statement; the module and every connection have all of them.
-/

namespace SchemaMigration

/-- A function that makes a statement. -/
inductive Operation where
  | createTable | addColumn | renameColumn | alterColumn | alterColumnComment | addColumnComment
  | dropColumn | createIndex | dropIndex | addPrimaryKey | dropPrimaryKey | addUnique | dropUnique
  | addCheck | dropCheck | addForeignKey | dropForeignKey | addCommentOnTable
  | addCommentOnColumn | dropCommentFromTable | dropCommentFromColumn | renameTable | dropTable
  | truncateTable | delete | batchInsert | execute
deriving DecidableEq, Repr

namespace Operation

def all : List Operation :=
  [.createTable, .addColumn, .renameColumn, .alterColumn, .alterColumnComment, .addColumnComment,
    .dropColumn, .createIndex, .dropIndex, .addPrimaryKey, .dropPrimaryKey, .addUnique,
    .dropUnique, .addCheck, .dropCheck, .addForeignKey, .dropForeignKey, .addCommentOnTable,
    .addCommentOnColumn, .dropCommentFromTable, .dropCommentFromColumn, .renameTable, .dropTable,
    .truncateTable, .delete, .batchInsert, .execute]

def name : Operation → String
  | .createTable => "createTable"
  | .addColumn => "addColumn"
  | .renameColumn => "renameColumn"
  | .alterColumn => "alterColumn"
  | .alterColumnComment => "alterColumnComment"
  | .addColumnComment => "addColumnComment"
  | .dropColumn => "dropColumn"
  | .createIndex => "createIndex"
  | .dropIndex => "dropIndex"
  | .addPrimaryKey => "addPrimaryKey"
  | .dropPrimaryKey => "dropPrimaryKey"
  | .addUnique => "addUnique"
  | .dropUnique => "dropUnique"
  | .addCheck => "addCheck"
  | .dropCheck => "dropCheck"
  | .addForeignKey => "addForeignKey"
  | .dropForeignKey => "dropForeignKey"
  | .addCommentOnTable => "addCommentOnTable"
  | .addCommentOnColumn => "addCommentOnColumn"
  | .dropCommentFromTable => "dropCommentFromTable"
  | .dropCommentFromColumn => "dropCommentFromColumn"
  | .renameTable => "renameTable"
  | .dropTable => "dropTable"
  | .truncateTable => "truncateTable"
  | .delete => "delete"
  | .batchInsert => "batchInsert"
  | .execute => "execute"

def ofName? (s : String) : Option Operation := all.find? (·.name == s)

/-- The action that an argument names. An unknown one is left out. -/
def action? (a : Arguments) (i : Nat) : Option ForeignKeyAction :=
  (a.text? i).bind ForeignKeyAction.ofText?

/-- Literal SQL without white space at its ends and without semicolons at its end. -/
def bareSql (s : String) : String := Text.trimEnd (Text.dropEnd ';' (Text.trim s))

/-- The rows of an insertion: the items of a list, each as a list. -/
def rows (v : Value) : List (List Value) := v.asList.map Value.asList

/-- The statement that a function makes of its arguments. It may be empty. -/
def statement (b : StatementBuilder) (a : Arguments) : Operation → Except QueryError String
  | .createTable => .ok (b.createTable (a.text 0) (TableLine.ofValue (a.get 1)) (a.text? 2))
  | .addColumn => .ok (b.addColumn (a.text 0) (a.text 1) (a.text 2))
  | .renameColumn => .ok (b.renameColumn (a.text 0) (a.text 1) (a.text 2))
  | .alterColumn => .ok (b.alterColumn (a.text 0) (a.text 1) (a.text 2))
  | .alterColumnComment =>
    .ok (b.alterColumnComment (a.text 0) (a.text 1) (a.text 2) (a.text 3))
  | .addColumnComment => .ok (b.addCommentOnColumn (a.text 0) (a.text 1) (a.text 2))
  | .dropColumn => .ok (b.dropColumn (a.text 0) (a.text 1))
  | .createIndex => .ok (b.createIndex (a.text 0) (a.text 1) (a.names 2) (a.bool 3))
  | .dropIndex => .ok (b.dropIndex (a.text 0) (a.text 1))
  | .addPrimaryKey => .ok (b.addPrimaryKey (a.text 0) (a.text 1) (a.names 2))
  | .dropPrimaryKey => .ok (b.dropConstraint (a.text 0) (a.text 1))
  | .addUnique => .ok (b.addUnique (a.text 0) (a.text 1) (a.names 2))
  | .dropUnique => .ok (b.dropConstraint (a.text 0) (a.text 1))
  | .addCheck => .ok (b.addCheck (a.text 0) (a.text 1) (a.text 2))
  | .dropCheck => .ok (b.dropConstraint (a.text 0) (a.text 1))
  | .addForeignKey =>
    .ok (b.addForeignKey (a.text 0) (a.text 1) (a.names 2) (a.text 3) (a.names 4)
      (action? a 5) (action? a 6))
  | .dropForeignKey => .ok (b.dropForeignKey (a.text 0) (a.text 1))
  | .addCommentOnTable => .ok (b.addCommentOnTable (a.text 0) (a.text 1))
  | .addCommentOnColumn => .ok (b.addCommentOnColumn (a.text 0) (a.text 1) (a.text 2))
  | .dropCommentFromTable => .ok (b.dropCommentFromTable (a.text 0))
  | .dropCommentFromColumn => .ok (b.dropCommentFromColumn (a.text 0) (a.text 1))
  | .renameTable => .ok (b.renameTable (a.text 0) (a.text 1))
  | .dropTable => .ok (b.dropTable (a.text 0))
  | .truncateTable => .ok (b.truncateTable (a.text 0))
  | .delete => b.delete (a.text 0) (Condition.ofValue (a.get 1))
  | .batchInsert => b.batchInsert (a.text 0) (a.names 1) (rows (a.get 2))
  | .execute => .ok (bareSql (a.text 0))

end Operation

end SchemaMigration
