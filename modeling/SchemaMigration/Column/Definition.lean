import SchemaMigration.Column.Basic
import SchemaMigration.Identifier
import SchemaMigration.Text.Template

/-!
# Column definitions

The abstract definition of a column, such as `string(64) NOT NULL`. It is a template with a
placeholder for each clause, in a fixed order; a clause that says nothing is empty. A primary key
has the short template.

## Main definitions

* `Column.clause` — the text that a placeholder stands for.
* `Column.definition` — the template of the type, filled with the clauses.
-/

namespace SchemaMigration.Column

def lengthClause (c : Column) : String :=
  match c.length with
  | [] => ""
  | [n] => "(" ++ toString n ++ ")"
  | n :: m :: _ => "(" ++ toString n ++ "," ++ toString m ++ ")"

def nullClause (c : Column) : String := if c.nullable then " NULL" else " NOT NULL"

def uniqueClause (c : Column) : String := if c.isUnique then " UNIQUE" else ""

/-- The default value. A nullable column without one has `NULL`. -/
def defaultClause (c : Column) : String :=
  match c.default? with
  | some s => " DEFAULT " ++ s
  | none => if c.nullable then " DEFAULT NULL" else ""

def present (s : Option String) : Option String := s.filter (!·.isEmpty)

def checkClause (c : Column) : String :=
  match present c.check? with
  | some s => " CHECK (" ++ s ++ ")"
  | none => ""

/-- A text between double quotes, each double quote inside behind a backslash. -/
def quoteComment (s : String) : String := "\"" ++ Text.replace '"' "\\\"" s ++ "\""

def commentClause (c : Column) : String :=
  match present c.comment? with
  | some s => " COMMENT " ++ quoteComment s
  | none => ""

def positionClause (c : Column) (q : Quoter) : String :=
  if c.isFirst then " FIRST"
  else
    match present c.after? with
    | some column => " AFTER " ++ q.column column
    | none => ""

/-- The text at the end. A comma follows it unless it holds a semicolon. -/
def appendClause (c : Column) : String :=
  match present c.append? with
  | some sql => if Text.has ';' sql then " " ++ sql else " " ++ sql ++ ","
  | none => ""

/-- The clause that a placeholder stands for. -/
def clause (c : Column) (q : Quoter) (t : ColumnType) (name : String) : String :=
  match name with
  | "type" => t.tag
  | "length" => c.lengthClause
  | "notnull" => c.nullClause
  | "unique" => c.uniqueClause
  | "default" => c.defaultClause
  | "check" => c.checkClause
  | "comment" => c.commentClause
  | "pos" => c.positionClause q
  | "append" => c.appendClause
  | _ => ""

/-- The placeholders in the definition of a type, in order. -/
def clauseNames (t : ColumnType) : List String :=
  if t.isPk then ["type", "check", "comment", "append"]
  else ["type", "length", "notnull", "unique", "default", "check", "comment", "pos", "append"]

/-- The template for the definition of a type. -/
def template (t : ColumnType) : List Char := Template.ofNames ((clauseNames t).map String.toList)

/-- The abstract definition of a column. A column of no type has none. -/
def definition (c : Column) (q : Quoter) : String :=
  match c.type? with
  | some t =>
    .ofList (Template.fill (fun name => (c.clause q t (.ofList name)).toList) (template t))
  | none => ""

theorem closingBrace_notMem_clauseNames {t : ColumnType} :
    ∀ name ∈ (clauseNames t).map String.toList, '\x7d' ∉ name := by
  unfold clauseNames
  split <;> decide

/-- The definition of a column of a type is its clauses, one after the other. -/
theorem toList_definition {c : Column} {t : ColumnType} (h : c.type? = some t) (q : Quoter) :
    (c.definition q).toList = (clauseNames t).flatMap fun name => (c.clause q t name).toList := by
  simp [definition, h, template, Template.fill_ofNames _ closingBrace_notMem_clauseNames,
    List.flatMap_map]

end SchemaMigration.Column
