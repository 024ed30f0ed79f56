import SchemaMigration.Text.Quoted
import SchemaMigration.Value.Coercion

/-!
# Value expressions

An expression stands for values inside a statement, such as the list after `IN`. It has a class, and
the builder registered for that class turns it into SQL with placeholders and their parameters.

Callers bring kinds of expressions and builders of their own. A builder may be any function; the one
that is there from the start builds lists of values.

## Main definitions

* `Expression` — lists of values, and the expressions of callers.
* `BuiltExpression.interpolate` — the SQL with its parameters in place of the placeholders.
* `ExpressionBuilder`, `ExpressionBuilder.array` — what builds a class, and the builder of lists.
* `ExpressionRegistry` — the builders by class.
-/

namespace SchemaMigration

/-- Why an expression has no SQL. -/
inductive QueryError where
  /-- The class has a builder already. -/
  | duplicateBuilder (cls : String)
  /-- The class has no builder. -/
  | unknownClass (cls : String)
  /-- The builder of one class was given an expression of another kind. -/
  | mismatch (expected actual : String)
deriving DecidableEq, Repr

def QueryError.message : QueryError → String
  | .duplicateBuilder cls => "expression builder already registered for class '" ++ cls ++ "'"
  | .unknownClass cls => "no expression builder registered for class '" ++ cls ++ "'"
  | .mismatch expected actual =>
    "expression class mismatch: expected '" ++ expected ++ "', got '" ++ actual ++ "'"

/-! ## Expressions -/

inductive Expression where
  /-- A list of values, written as literals or bound to placeholders. -/
  | array (values : List Value) (bound : Bool)
  /-- An expression of a caller's own kind: its class, and the data that its builder finds in it. -/
  | other (cls text : String) (values : List Value)
deriving Inhabited

def arrayClass : String := "Mysql::ArrayExpress"

def Expression.cls : Expression → String
  | .array _ _ => arrayClass
  | .other cls _ _ => cls

/-- SQL with placeholders, and their parameters in order. -/
structure BuiltExpression where
  sql : String
  params : List Value
deriving Inhabited

namespace BuiltExpression

/-- The pieces of SQL between the question marks outside single quotes. Every single quote begins
or ends a quoted part. -/
def segments (quoted : Bool) : List Char → List (List Char)
  | [] => [[]]
  | c :: cs =>
    if c = '?' ∧ quoted = false then [] :: segments quoted cs
    else
      match segments (if c = '\'' then !quoted else quoted) cs with
      | [] => [[c]]
      | s :: ss => (c :: s) :: ss

/-- Segments with a parameter's literal after each but the last, and a question mark once the
parameters run out. -/
def weave : List (List Char) → List Value → List Char
  | [], _ => []
  | [s], _ => s
  | s :: ss, [] => s ++ '?' :: weave ss []
  | s :: ss, p :: ps => s ++ (p.literal.toList ++ weave ss ps)

/-- The SQL with each placeholder replaced by the literal of its parameter. Placeholders inside
single quotes are left alone, and so are those beyond the parameters. -/
def interpolate (b : BuiltExpression) : String :=
  .ofList (weave (segments false b.sql.toList) b.params)

theorem segments_ne_nil (quoted : Bool) (cs : List Char) : segments quoted cs ≠ [] := by
  cases cs with
  | nil => simp [segments]
  | cons c cs =>
    simp only [segments]
    split
    · simp
    · split <;> simp

/-- Without parameters the SQL stays as it is. -/
theorem weave_segments_nil (quoted : Bool) (cs : List Char) :
    weave (segments quoted cs) [] = cs := by
  induction cs generalizing quoted with
  | nil => rfl
  | cons c cs ih =>
    simp only [segments]
    split
    · rename_i h
      obtain ⟨rfl, rfl⟩ := h
      obtain ⟨s, ss, hs⟩ := List.exists_cons_of_ne_nil (segments_ne_nil false cs)
      have := ih false
      simp_all [weave]
    · obtain ⟨s, ss, hs⟩ := List.exists_cons_of_ne_nil
        (segments_ne_nil (if c = '\'' then !quoted else quoted) cs)
      have := ih (if c = '\'' then !quoted else quoted)
      rw [hs] at this ⊢
      cases ss <;> simp_all [weave]

end BuiltExpression

/-! ## Builders -/

/-- What builds the expressions of a class, with further parameters. -/
structure ExpressionBuilder where
  cls : String
  build : Expression → List Value → Except QueryError BuiltExpression

namespace ExpressionBuilder

/-- The items of a list that is an item itself. -/
def spread : Value → List Value
  | .list items => items
  | v => [v]

/-- A list of values, one level of lists inside it spread out. -/
def buildArray (values : List Value) (bound : Bool) : BuiltExpression :=
  let flat := values.flatMap spread
  if bound then ⟨", ".intercalate (List.replicate flat.length "?"), flat⟩
  else ⟨", ".intercalate (flat.map Value.literal), []⟩

/-- The builder of lists of values. It refuses every other kind of expression. -/
def array : ExpressionBuilder where
  cls := arrayClass
  build
    | .array values bound, params => .ok (buildArray (values ++ params) bound)
    | e, _ => .error (.mismatch arrayClass e.cls)

@[simp] theorem build_array (values params : List Value) (bound : Bool) :
    array.build (.array values bound) params = .ok (buildArray (values ++ params) bound) := rfl

end ExpressionBuilder

structure ExpressionRegistry where
  builders : Dict ExpressionBuilder := []
deriving Inhabited

namespace ExpressionRegistry

def usual : ExpressionRegistry := ⟨[(arrayClass, .array)]⟩

def has (r : ExpressionRegistry) (cls : String) : Bool := r.builders.has cls

/-- Registers a builder for its class. The first builder of a class stays. -/
def register (r : ExpressionRegistry) (b : ExpressionBuilder) :
    Except QueryError ExpressionRegistry :=
  if r.has b.cls then .error (.duplicateBuilder b.cls) else .ok ⟨r.builders.insert b.cls b⟩

/-- The SQL of an expression, by the builder of its class. -/
def build (r : ExpressionRegistry) (e : Expression) (params : List Value) :
    Except QueryError BuiltExpression :=
  match r.builders.get? e.cls with
  | some b => b.build e params
  | none => .error (.unknownClass e.cls)

/-- The literals of a list of values, joined by commas: the list as an expression, built and
interpolated. -/
def listText (r : ExpressionRegistry) (values : List Value) : Except QueryError String :=
  (r.build (.array values false) []).map BuiltExpression.interpolate

/-- The registry as a short text: its classes, in order. -/
def describe (r : ExpressionRegistry) : String :=
  Text.closedRecord "ExpressionRegistry"
    [("classes", Text.listing (r.builders.names.map Text.quoted))]

end ExpressionRegistry

end SchemaMigration
