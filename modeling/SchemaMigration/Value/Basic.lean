import SchemaMigration.Dict

/-!
# Values

The values that a migration script hands over: numbers, texts, booleans, lists and keyed tables,
used interchangeably. The fields of a map are a dictionary.
-/

namespace SchemaMigration

/-- A value of a script. Numbers do not tell integers from floats. -/
inductive Value where
  | null
  | bool (b : Bool)
  | number (x : Float)
  | text (s : String)
  | list (items : List Value)
  | map (fields : List (String × Value))
deriving Inhabited

namespace Value

/-- The map of a list of fields. Of two fields with one name the later wins. -/
def ofFields (fields : List (String × Value)) : Value := .map (Dict.ofList fields)

/-- Holds for the absent value and for empty texts, lists and maps. -/
def isEmpty : Value → Bool
  | .null => true
  | .text s => s.isEmpty
  | .list items => items.isEmpty
  | .map fields => fields.isEmpty
  | .bool _ | .number _ => false

def isNull : Value → Bool
  | .null => true
  | _ => false

end Value

end SchemaMigration
