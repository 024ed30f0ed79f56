import SchemaMigration.Dict

/-!
# JSON documents

The values of a JSON document. Whole numbers that fit 64 bits are kept apart from the others, as
they are written differently.
-/

namespace SchemaMigration

/-- A JSON value. The members of an object are a dictionary. -/
inductive Json where
  | null
  | bool (b : Bool)
  | int (n : Int)
  | float (x : Float)
  | text (s : String)
  | array (items : List Json)
  | object (members : List (String × Json))
deriving Inhabited

namespace Json

/-- The object of a list of members. Of two members with one name the later wins. -/
def ofMembers (members : List (String × Json)) : Json := .object (Dict.ofList members)

def member? (name : String) : Json → Option Json
  | .object members => Dict.get? members name
  | _ => none

end Json

end SchemaMigration
