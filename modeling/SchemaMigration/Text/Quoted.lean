import SchemaMigration.Text.Basic
import SchemaMigration.Text.Hidden

/-!
# Quoted texts

A text between double quotes that shows every character: quotes, backslashes and hidden characters
are written as escapes. A record is a name with labelled fields.

## Main definitions

* `Text.quoted` — a text between double quotes.
* `Text.listing` — items between brackets.
* `Text.openRecord` — a record that does not show all its fields.
-/

namespace SchemaMigration.Text

/-- A character between double quotes. -/
def quotedChar (c : Char) : List Char :=
  if c = '"' then ['\\', '"']
  else if c = '\\' then ['\\', '\\']
  else if c = '\n' then ['\\', 'n']
  else if c = '\r' then ['\\', 'r']
  else if c = '\t' then ['\\', 't']
  else if c = '\x00' then ['\\', '0']
  else if Chars.isHidden c then ['\\', 'u', '\x7b'] ++ Nat.toDigits 16 c.toNat ++ ['\x7d']
  else [c]

/-- A text between double quotes. -/
def quoted (s : String) : String := "\"" ++ .ofList (s.toList.flatMap quotedChar) ++ "\""

def listing (items : List String) : String := "[" ++ ", ".intercalate items ++ "]"

/-- The fields of a record, each with its label. -/
def fieldTexts (fields : List (String × String)) : List String :=
  fields.map fun (label, value) => label ++ ": " ++ value

/-- Items between braces after a name. -/
def braced (name : String) (items : List String) : String :=
  name ++ " \x7b " ++ ", ".intercalate items ++ " \x7d"

/-- A record that shows all its fields. -/
def closedRecord (name : String) (fields : List (String × String)) : String :=
  braced name (fieldTexts fields)

/-- A record that does not show all its fields. -/
def openRecord (name : String) (fields : List (String × String)) : String :=
  braced name (fieldTexts fields ++ [".."])

end SchemaMigration.Text
