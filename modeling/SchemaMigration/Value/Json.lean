import SchemaMigration.Json.Printer
import SchemaMigration.Json.Reader
import SchemaMigration.Value.Basic

/-!
# Values as JSON

A value as a JSON document and back. Every number of a value is written as a double.
-/

namespace SchemaMigration.Value

mutual

def toJson : Value → Json
  | .null => .null
  | .bool b => .bool b
  | .number x => .float x
  | .text s => .text s
  | .list items => .array (itemsToJson items)
  | .map fields => .object (fieldsToJson fields)

def itemsToJson : List Value → List Json
  | [] => []
  | v :: vs => v.toJson :: itemsToJson vs

def fieldsToJson : List (String × Value) → List (String × Json)
  | [] => []
  | (name, v) :: fields => (name, v.toJson) :: fieldsToJson fields

end

/-- The double nearest to a whole number. -/
def numberOfInt (n : Int) : Float :=
  if n < 0 then -Decimal.toFloat n.natAbs 0 else Decimal.toFloat n.natAbs 0

mutual

def ofJson : Json → Value
  | .null => .null
  | .bool b => .bool b
  | .int n => .number (numberOfInt n)
  | .float x => .number x
  | .text s => .text s
  | .array items => .list (itemsOfJson items)
  | .object members => .map (fieldsOfJson members)

def itemsOfJson : List Json → List Value
  | [] => []
  | j :: js => ofJson j :: itemsOfJson js

def fieldsOfJson : List (String × Json) → List (String × Value)
  | [] => []
  | (name, j) :: members => (name, ofJson j) :: fieldsOfJson members

end

def jsonText (v : Value) : String := v.toJson.compact

def readJson (s : String) : Option Value := (Json.read s).map ofJson

theorem itemsToJson_eq_map (vs : List Value) : itemsToJson vs = vs.map toJson := by
  induction vs <;> simp_all [itemsToJson]

theorem fieldsToJson_eq_map (fs : List (String × Value)) :
    fieldsToJson fs = fs.map fun (n, v) => (n, v.toJson) := by
  induction fs <;> simp_all [fieldsToJson]

mutual

/-- A value is read back from its document. -/
@[simp] theorem ofJson_toJson (v : Value) : ofJson v.toJson = v := by
  cases v with
  | list items => simp [toJson, ofJson, itemsOfJson_itemsToJson items]
  | map fields => simp [toJson, ofJson, fieldsOfJson_fieldsToJson fields]
  | _ => simp [toJson, ofJson]

theorem itemsOfJson_itemsToJson (vs : List Value) : itemsOfJson (itemsToJson vs) = vs := by
  match vs with
  | [] => simp [itemsToJson, itemsOfJson]
  | v :: vs => simp [itemsToJson, itemsOfJson, ofJson_toJson v, itemsOfJson_itemsToJson vs]

theorem fieldsOfJson_fieldsToJson (fs : List (String × Value)) :
    fieldsOfJson (fieldsToJson fs) = fs := by
  match fs with
  | [] => simp [fieldsToJson, fieldsOfJson]
  | (n, v) :: fs => simp [fieldsToJson, fieldsOfJson, ofJson_toJson v, fieldsOfJson_fieldsToJson fs]

end

end SchemaMigration.Value
