import SchemaMigration.Expression
import SchemaMigration.ItemList

/-!
# Conditions

What may stand after `WHERE`: literal SQL, pairs of a column and a value, a list of both, or an
expression.
-/

namespace SchemaMigration

/-- A condition on the rows of a table. -/
inductive Condition where
  /-- Literal SQL. -/
  | sql (s : String)
  /-- Columns and the value each must have. -/
  | hash (fields : List (String × Value))
  /-- Literal SQL items and pairs of a column and a value. -/
  | array (list : ItemList)
  /-- An expression with further parameters. -/
  | expression (e : Expression) (params : List Value)
deriving Inhabited

namespace Condition

/-- The condition of a value: a map is pairs, a list is items and pairs, anything else is literal
SQL, and the absent value is the empty condition. -/
def ofValue : Value → Condition
  | .null => .sql ""
  | .map fields => .hash fields
  | .list items => .array (.parse (.list items))
  | v => .sql v.asText

/-- Holds if a condition has nothing to say. An expression always has. -/
def isEmpty : Condition → Bool
  | .sql s => (Text.trim s).isEmpty
  | .hash fields => fields.isEmpty
  | .array list => list.isEmpty
  | .expression _ _ => false

end Condition

end SchemaMigration
