import SchemaMigration.Dict
import SchemaMigration.Text.Basic
import SchemaMigration.Text.Word

/-!
# Physical column types

Column definitions are written with abstract type names. A `TypeMap` gives the physical type of
each, and `TypeMap.resolve` rewrites a definition: the leading name is replaced, and a length in
parentheses takes the place of the length of the physical type.

## Main definitions

* `TypeMap.sized?` — a definition as name, length and the rest.
* `TypeMap.resize` — a physical type with another length.
* `TypeMap.resolve` — the definition with its physical type.
-/

namespace SchemaMigration

structure TypeMap where
  types : Dict String := []
deriving DecidableEq, Repr, Inhabited

namespace TypeMap

open Chars

def usual : TypeMap := ⟨Dict.ofList [
  ("pk", "int(11) NOT NULL AUTO_INCREMENT PRIMARY KEY"),
  ("upk", "int(10) UNSIGNED NOT NULL AUTO_INCREMENT PRIMARY KEY"),
  ("bigpk", "bigint(20) NOT NULL AUTO_INCREMENT PRIMARY KEY"),
  ("ubigpk", "bigint(20) UNSIGNED NOT NULL AUTO_INCREMENT PRIMARY KEY"),
  ("char", "char(1)"),
  ("string", "varchar(255)"),
  ("varchar", "varchar(255)"),
  ("text", "text"),
  ("longtext", "longtext"),
  ("tinyint", "tinyint(3)"),
  ("smallint", "smallint(6)"),
  ("integer", "int(11)"),
  ("bigint", "bigint(20)"),
  ("boolean", "tinyint(1)"),
  ("bool", "tinyint(1)"),
  ("float", "float"),
  ("double", "double"),
  ("decimal", "decimal"),
  ("datetime", "datetime"),
  ("timestamp", "timestamp"),
  ("time", "time"),
  ("timestamps", "int(11)"),
  ("date", "date"),
  ("money", "decimal(19,4)"),
  ("binary", "blob")]⟩

def set (m : TypeMap) (tag physical : String) : TypeMap := ⟨m.types.insert tag physical⟩

def get? (m : TypeMap) (tag : String) : Option String := m.types.get? tag

def chars? (m : TypeMap) (tag : List Char) : Option (List Char) :=
  (m.get? (.ofList tag)).map String.toList

/-- A definition as its leading word, the length in parentheses right after it, and the rest. A
length has at least one character. -/
def sized? (cs : List Char) : Option (List Char × List Char × List Char) :=
  let word := cs.takeWhile isWord
  if word.isEmpty then none
  else
    match cs.dropWhile isWord with
    | '(' :: c :: rest =>
      (cut? ')' rest).map fun (length, trailer) => (word, c :: length, trailer)
    | _ => none

/-- A definition as its leading word and the rest, if white space parts them. -/
def spaced? (cs : List Char) : Option (List Char × List Char) :=
  let word := cs.takeWhile isWord
  if word.isEmpty then none
  else
    match cs.dropWhile isWord with
    | c :: rest => if isBlank c then some (word, c :: rest) else none
    | [] => none

/-- A physical type with another length, in parentheses: in the place of its first group in
parentheses, or at its end if it has none. -/
def resize (length physical : List Char) : List Char :=
  match cut? '(' physical with
  | none => physical ++ length
  | some (before, rest) =>
    match cut? ')' rest with
    | none => physical ++ length
    | some (_, after) => before ++ length ++ after

/-- The characters of a definition with its physical type. -/
def resolveChars (m : TypeMap) (cs : List Char) : List Char :=
  match m.chars? cs with
  | some physical => physical
  | none =>
    match sized? cs with
    | some (word, length, trailer) =>
      match m.chars? word with
      | some physical => resize ('(' :: (length ++ [')'])) physical ++ trailer
      | none => cs
    | none =>
      match spaced? cs with
      | some (word, rest) => (m.chars? word).getD word ++ rest
      | none => cs

/-- A definition with its physical type: an exact name is its type; a name with a length gives the
length to its type; a name before white space is replaced. Anything else stays as it is, and so
does a name that has no type. -/
def resolve (m : TypeMap) (definition : String) : String :=
  if definition.isEmpty then "" else .ofList (m.resolveChars definition.toList)

end TypeMap

end SchemaMigration
