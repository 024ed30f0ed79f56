import SchemaMigration.Text.Basic
import SchemaMigration.Value.Json

/-!
# Reading a value as another kind

Every value can be read as a text, a number, a boolean or a list, and written as an SQL literal.
What does not fit gives the neutral answer: zero, false or nothing.
-/

namespace SchemaMigration.Value

/-- Numbers in statements: the fewest digits that read back, of two the greater one, and never an
exponent. -/
def numberLayout : Decimal.Layout where
  count := none
  tie := .up
  positional _ := true
  wholeEnd := ""
  exponentPlus := false
  exponentWidth := 1
  nan := "NaN"
  infinite negative := if negative then "-inf" else "inf"

def numberText (x : Float) : String := numberLayout.write x

mutual

/-- The value as text. The items of a list are joined by commas, a map is JSON. -/
def asText : Value → String
  | .null => ""
  | .bool b => if b then "true" else "false"
  | .number x => numberText x
  | .text s => s
  | .list items => ",".intercalate (asTexts items)
  | .map fields => (Value.map fields).jsonText

def asTexts : List Value → List String
  | [] => []
  | v :: vs => v.asText :: asTexts vs

end

/-- The value as a number, zero if it is none. White space around a text does not count. -/
def asNumber : Value → Float
  | .number x => x
  | .bool true => 1
  | .text s => (Decimal.float? (Text.trim s)).getD 0
  | _ => 0

/-- The whole part of a number of at least 1 that 32 bits hold. -/
def positiveOf? (x : Float) : Option Nat :=
  if 1 ≤ x ∧ x ≤ 4294967295 then some x.toUInt32.toNat else none

/-- The value as a positive number of 32 bits. -/
def asPositive? (v : Value) : Option Nat := positiveOf? v.asNumber

/-- The texts that count as true. -/
def trueWords : List String := ["1", "true", "yes", "on"]

/-- The value as a boolean: a number other than zero is true, and so is one of `trueWords`. -/
def asBool : Value → Bool
  | .bool b => b
  | .number x => x != 0
  | .text s => trueWords.contains (Text.lower (Text.trim s))
  | _ => false

/-- The value as a list: the values of a map, the parts of a text between commas that are not
blank, and a single value for anything else. -/
def asList : Value → List Value
  | .null => []
  | .list items => items
  | .map fields => fields.map Prod.snd
  | .text s => ((Text.split ',' s).map Text.trim).filter (!·.isEmpty) |>.map .text
  | v => [v]

/-- A text as an SQL literal: in single quotes, a quote inside written twice. -/
def quoteText (s : String) : String := "'" ++ Text.replace '\'' "''" s ++ "'"

mutual

/-- The value as an SQL literal. A list is the literals of its items, a map its JSON text. -/
def literal : Value → String
  | .null => "NULL"
  | .bool b => if b then "1" else "0"
  | .number x => numberText x
  | .text s => quoteText s
  | .list items => ", ".intercalate (literals items)
  | .map fields => quoteText (Value.map fields).jsonText

def literals : List Value → List String
  | [] => []
  | v :: vs => v.literal :: literals vs

end

theorem literals_eq_map (vs : List Value) : literals vs = vs.map literal := by
  induction vs <;> simp_all [literals]

end SchemaMigration.Value
