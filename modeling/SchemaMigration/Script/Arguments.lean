import SchemaMigration.ItemList

/-!
# Arguments

The arguments of one call, by position. An argument that is not there reads as the absent value.
-/

namespace SchemaMigration

structure Arguments where
  values : List Value
deriving Inhabited

namespace Arguments

/-- The argument at a position. -/
def get (a : Arguments) (i : Nat) : Value := a.values[i]?.getD .null

def text (a : Arguments) (i : Nat) : String := (a.get i).asText

def text? (a : Arguments) (i : Nat) : Option String :=
  if (a.get i).isEmpty then none else some (a.text i)

def bool (a : Arguments) (i : Nat) : Bool := (a.get i).asBool

def names (a : Arguments) (i : Nat) : List String := (ItemList.parse (a.get i)).items

def rest (a : Arguments) (i : Nat) : List Value := a.values.drop i

end Arguments

end SchemaMigration
