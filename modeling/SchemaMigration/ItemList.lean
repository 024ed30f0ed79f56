import SchemaMigration.Value.Coercion

/-!
# Item lists

A list of names or conditions comes in many spellings: `name, state`, `(a, b)`, `[a, b]`, a JSON
array of objects, a list or a keyed map. An `ItemList` is what they have in common, plain items and
pairs of a key and a value.

## Main definitions

* `ItemList.parse` — the items and pairs of a value.
* `ItemList.ofText` — the same of a text.
-/

namespace SchemaMigration

/-- Plain items and pairs. -/
structure ItemList where
  items : List String := []
  pairs : List (String × Value) := []
  /-- Whether a single text spelled the list. -/
  fromText : Bool := false
deriving Inhabited

namespace ItemList

open Chars

def isEmpty (a : ItemList) : Bool := a.items.isEmpty && a.pairs.isEmpty

def isPairs (a : ItemList) : Bool := a.items.isEmpty && !a.pairs.isEmpty

/-- The list of given items, also of empty ones. -/
def ofItems (items : List String) : ItemList := { items }

/-! ## Lists and maps -/

/-- The text of an item of a list: nothing for a map, an absent value or an empty text. -/
def itemOf? : Value → Option String
  | .null | .map _ => none
  | v => if v.asText.isEmpty then none else some v.asText

/-- The pairs of an item of a list: the fields of a map. -/
def pairsOf : Value → List (String × Value)
  | .map fields => fields
  | _ => []

/-- The items and pairs of the items of a list, each in order. -/
def ofValues (vs : List Value) : ItemList where
  items := vs.filterMap itemOf?
  pairs := vs.flatMap pairsOf

/-! ## Texts -/

def isQuote (c : Char) : Bool := c == '"' || c == '\''

/-- The text without quotes at either end. -/
def stripQuotes (cs : List Char) : List Char := dropEndWhile isQuote (cs.dropWhile isQuote)

/-- The text between `first` and `last`, if it is between them. -/
def between? (first last : Char) (cs : List Char) : Option (List Char) :=
  (stripStart? [first] cs).bind (stripEnd? [last])

def stripBrackets (cs : List Char) : List Char := (between? '[' ']' cs).getD cs

/-- The text without enclosing parentheses, which count only around a comma. -/
def stripParentheses (cs : List Char) : List Char :=
  if cs.contains ',' then (between? '(' ')' cs).getD cs else cs

/-- Pieces that follow a comma, without the white space at commas. The last keeps its end. -/
def afterComma : List (List Char) → List (List Char)
  | [] => []
  | [piece] => [trimStart piece]
  | piece :: pieces => trim piece :: afterComma pieces

/-- The pieces between commas, without the white space at commas. -/
def pieces (cs : List Char) : List (List Char) :=
  match splitOn ',' cs with
  | [] => []
  | [piece] => [piece]
  | piece :: rest => trimEnd piece :: afterComma rest

/-- The names of a text: its pieces that are not empty, without quotes around them. -/
def names (cs : List Char) : List (List Char) :=
  ((pieces (stripParentheses (stripBrackets cs))).filter (!·.isEmpty)).map stripQuotes

/-- Holds for a text in brackets that has braces. It may be a JSON array of objects. -/
def looksLikePairs (cs : List Char) : Bool :=
  cs.head? == some '[' && cs.getLast? == some ']' && cs.contains '\x7b' && cs.contains '\x7d'

/-- The items of a JSON array of a text that looks like pairs. -/
def jsonItems? (cs : List Char) : Option (List Value) :=
  if looksLikePairs cs then
    match Value.readJson (.ofList cs) with
    | some (.list items) => some items
    | _ => none
  else none

/-- The items and pairs of a text: those of a JSON array of objects, or names. -/
def ofText (s : String) : ItemList :=
  let cs := trim s.toList
  if cs.isEmpty then {}
  else
    match jsonItems? cs with
    | some items => { ofValues items with fromText := true }
    | none => { items := (names cs).map .ofList, fromText := true }

/-- The items and pairs of a value. A value of any other kind is one item, its text. -/
def parse : Value → ItemList
  | .null => {}
  | .text s => ofText s
  | .list items => ofValues items
  | .map fields => { pairs := fields }
  | v => { items := [v.asText] }

end ItemList

end SchemaMigration
