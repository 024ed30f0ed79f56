import SchemaMigration.Decimal.Layout
import SchemaMigration.Json.Basic

/-!
# Writing JSON

The compact text of a JSON value: no white space, the members of an object in order, and only the
escapes that the format demands.
-/

namespace SchemaMigration.Json

/-- Numbers in JSON: the fewest digits that read back, of two the even one; `.0` after a whole
number; an exponent with its sign from `10 ^ 16` on and below `10 ^ -5`. What is no number is
`null`. -/
def numberLayout : Decimal.Layout where
  count := none
  tie := .even
  positional point := -5 < point && point ≤ 16
  wholeEnd := ".0"
  exponentPlus := true
  exponentWidth := 1
  nan := "null"
  infinite _ := "null"

def hexDigit (n : Nat) : Char := if n < 10 then Char.ofNat (48 + n) else Char.ofNat (87 + n)

def escape (c : Char) : List Char :=
  if c = '"' then ['\\', '"']
  else if c = '\\' then ['\\', '\\']
  else if c = '\n' then ['\\', 'n']
  else if c = '\r' then ['\\', 'r']
  else if c = '\t' then ['\\', 't']
  else if c = '\x08' then ['\\', 'b']
  else if c = '\x0c' then ['\\', 'f']
  else if c.toNat < 32 then
    ['\\', 'u', '0', '0', hexDigit (c.toNat / 16), hexDigit (c.toNat % 16)]
  else [c]

def quote (s : String) : List Char := '"' :: (s.toList.flatMap escape ++ ['"'])

mutual

def chars : Json → List Char
  | .null => "null".toList
  | .bool true => "true".toList
  | .bool false => "false".toList
  | .int n => (toString n).toList
  | .float x => (numberLayout.write x).toList
  | .text s => quote s
  | .array [] => ['[', ']']
  | .array (item :: items) => '[' :: (chars item ++ itemChars items)
  | .object [] => ['\x7b', '\x7d']
  | .object ((name, item) :: members) =>
    '\x7b' :: (quote name ++ ':' :: (chars item ++ memberChars members))

/-- The further items of an array and its end. -/
def itemChars : List Json → List Char
  | [] => [']']
  | item :: items => ',' :: (chars item ++ itemChars items)

/-- The further members of an object and its end. -/
def memberChars : List (String × Json) → List Char
  | [] => ['\x7d']
  | (name, item) :: members => ',' :: (quote name ++ ':' :: (chars item ++ memberChars members))

end

def compact (j : Json) : String := .ofList j.chars

end SchemaMigration.Json
