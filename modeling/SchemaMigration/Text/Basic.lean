import SchemaMigration.Text.Chars

/-!
# Text

The operations of `Chars` on strings. A string stands for its list of characters, and every
operation here is the one on lists: its `toList` law says which.
-/

namespace SchemaMigration.Text

open Chars

def trim (s : String) : String := .ofList (Chars.trim s.toList)

def trimEnd (s : String) : String := .ofList (Chars.trimEnd s.toList)

/-- The text without the longest run of `c` at its end. -/
def dropEnd (c : Char) (s : String) : String := .ofList (dropEndWhile (· == c) s.toList)

def split (sep : Char) (s : String) : List String := (splitOn sep s.toList).map .ofList

def replace (c : Char) (sub s : String) : String := .ofList (Chars.replace c sub.toList s.toList)

def has (c : Char) (s : String) : Bool := s.toList.contains c

/-- The letters A to Z in small form, every other character as it is. -/
def lower (s : String) : String := .ofList (s.toList.map Char.toLower)

/-- The letters a to z in capital form, every other character as it is. -/
def upper (s : String) : String := .ofList (s.toList.map Char.toUpper)

@[simp] theorem toList_trim (s : String) : (trim s).toList = Chars.trim s.toList := by
  simp [trim]

@[simp] theorem toList_trimEnd (s : String) : (trimEnd s).toList = Chars.trimEnd s.toList := by
  simp [trimEnd]

@[simp] theorem toList_dropEnd (c : Char) (s : String) :
    (dropEnd c s).toList = dropEndWhile (· == c) s.toList := by
  simp [dropEnd]

@[simp] theorem map_toList_split (sep : Char) (s : String) :
    (split sep s).map String.toList = splitOn sep s.toList := by
  simp [split, Function.comp_def]

@[simp] theorem toList_replace (c : Char) (sub s : String) :
    (replace c sub s).toList = Chars.replace c sub.toList s.toList := by
  simp [replace]

@[simp] theorem toList_upper (s : String) : (upper s).toList = s.toList.map Char.toUpper := by
  simp [upper]

@[simp] theorem toList_lower (s : String) : (lower s).toList = s.toList.map Char.toLower := by
  simp [lower]

end SchemaMigration.Text
