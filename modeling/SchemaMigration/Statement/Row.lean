import SchemaMigration.Condition
import SchemaMigration.Statement.Basic

/-!
# Statements on rows

Conditions, the deletion of rows and the insertion of many rows. Lists of values are written by the
registered builder, so these may fail.
-/

namespace SchemaMigration.StatementBuilder

/-- Conjuncts joined by `AND`. Each is in parentheses if there are several. -/
def conjunction : List String → String
  | [] => ""
  | [part] => part
  | parts => " AND ".intercalate (parts.map fun part => "(" ++ part ++ ")")

/-- The conjunct of a column and its value. A list means one of its items; the empty list is
never met. -/
def pairClause (b : StatementBuilder) (column : String) : Value → Except QueryError String
  | .null => .ok (b.quoter.column column ++ " IS NULL")
  | .list [] => .ok "0=1"
  | .list items =>
    (b.expressions.listText items).map fun text => b.quoter.column column ++ " IN (" ++ text ++ ")"
  | v => .ok (b.quoter.column column ++ " = " ++ v.literal)

/-- The conjuncts of pairs, in order, up to the first that fails. -/
def pairClauses (b : StatementBuilder) : List (String × Value) → Except QueryError (List String)
  | [] => .ok []
  | (column, v) :: pairs => do
    let clause ← b.pairClause column v
    let clauses ← b.pairClauses pairs
    return clause :: clauses

def pairsText (b : StatementBuilder) (pairs : List (String × Value)) : Except QueryError String :=
  (b.pairClauses pairs).map conjunction

/-- The items of a list that are not blank, without white space at their ends. -/
def itemClauses (list : ItemList) : List String :=
  (list.items.map Text.trim).filter (!·.isEmpty)

/-- The text of a condition, without `WHERE`. Of a list the pairs are one conjunct, after the
items. -/
def conditionText (b : StatementBuilder) : Condition → Except QueryError String
  | .sql s => .ok (Text.trim s)
  | .hash fields => b.pairsText fields
  | .array list => do
    let pairs ← b.pairsText list.pairs
    return conjunction (itemClauses list ++ if pairs.isEmpty then [] else [pairs])
  | .expression e params => (b.expressions.build e params).map BuiltExpression.interpolate

/-- The text of a condition after `WHERE`, empty if the condition is. -/
def whereText (b : StatementBuilder) (c : Condition) : Except QueryError String := do
  let text ← b.conditionText c
  return if text.isEmpty then "" else "WHERE " ++ text

def delete (b : StatementBuilder) (table : String) (c : Condition) :
    Except QueryError String := do
  let text ← b.whereText c
  return b.write ["DELETE FROM ", .table table, if text.isEmpty then "" else " " ++ text]

/-- The texts of rows, each in parentheses, up to the first that fails. -/
def rowTexts (b : StatementBuilder) : List (List Value) → Except QueryError (List String)
  | [] => .ok []
  | row :: rows => do
    let text ← b.expressions.listText row
    let texts ← b.rowTexts rows
    return ("(" ++ text ++ ")") :: texts

/-- The columns of an insertion in parentheses, or nothing if no name is given. -/
def insertColumns (b : StatementBuilder) (columns : List String) : String :=
  let list := b.quoter.columns columns
  if list.isEmpty then "" else " (" ++ list ++ ")"

/-- Inserts rows. Empty rows are left out, and without any row there is no statement. -/
def batchInsert (b : StatementBuilder) (table : String) (columns : List String)
    (rows : List (List Value)) : Except QueryError String :=
  match rows.filter (!·.isEmpty) with
  | [] => .ok ""
  | rows => do
    let texts ← b.rowTexts rows
    return b.write ["INSERT INTO ", .table table, b.insertColumns columns, " VALUES ",
      ", ".intercalate texts]

end SchemaMigration.StatementBuilder
