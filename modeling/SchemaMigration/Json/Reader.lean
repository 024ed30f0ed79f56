import SchemaMigration.Json.Number

/-!
# Reading JSON

A reader takes a value from the head of a text and answers with the rest. Arrays and objects nest
at most `maxDepth` deep; every reader is a recursion on the text or on the depth that is left.

## Main definitions

* `Json.Reader` — a reader of one kind of thing.
* `Json.readText` — a text, after its opening quote.
* `Json.readValue` — a value, with so many levels left.
* `Json.read` — a whole document.
-/

namespace SchemaMigration.Json

/-- Takes a thing from the head of a text, or refuses. -/
abbrev Reader (α : Type) := List Char → Option (α × List Char)

def isSpace (c : Char) : Bool := c == ' ' || c == '\n' || c == '\t' || c == '\r'

def skipSpace (cs : List Char) : List Char := cs.dropWhile isSpace

def hexValue? (c : Char) : Option Nat :=
  if '0' ≤ c ∧ c ≤ '9' then some (c.toNat - 48)
  else if 'a' ≤ c ∧ c ≤ 'f' then some (c.toNat - 87)
  else if 'A' ≤ c ∧ c ≤ 'F' then some (c.toNat - 55)
  else none

def hexUnit? (a b c d : Char) : Option Nat := do
  return ((← hexValue? a) * 16 + (← hexValue? b)) * 256 + (← hexValue? c) * 16 + (← hexValue? d)

/-- The character that a one-letter escape stands for. -/
def unescape? (c : Char) : Option Char :=
  if c = '"' ∨ c = '\\' ∨ c = '/' then some c
  else if c = 'n' then some '\n'
  else if c = 'r' then some '\r'
  else if c = 't' then some '\t'
  else if c = 'b' then some '\x08'
  else if c = 'f' then some '\x0c'
  else none

/-- Puts a character before a text that was read. -/
def consChar (c : Char) : Option (List Char × List Char) → Option (List Char × List Char)
  | some (cs, rest) => some (c :: cs, rest)
  | none => none

/-- The characters up to the closing quote. After the escape of a high surrogate (`high`) the next
thing is the escape of a low one; the two are one character. -/
def readText (high : Option Nat) : List Char → Option (List Char × List Char)
  | '\\' :: 'u' :: a :: b :: c :: d :: cs =>
    match hexUnit? a b c d, high with
    | none, _ => none
    | some n, some h =>
      if 0xDC00 ≤ n ∧ n ≤ 0xDFFF then
        consChar (Char.ofNat (0x10000 + (h - 0xD800) * 0x400 + (n - 0xDC00))) (readText none cs)
      else none
    | some n, none =>
      if 0xD800 ≤ n ∧ n ≤ 0xDBFF then readText (some n) cs
      else if 0xDC00 ≤ n ∧ n ≤ 0xDFFF then none
      else consChar (Char.ofNat n) (readText none cs)
  | '\\' :: c :: cs =>
    match high, unescape? c with
    | none, some d => consChar d (readText none cs)
    | _, _ => none
  | c :: cs =>
    if high.isSome || c = '\\' || c.toNat < 32 then none
    else if c = '"' then some ([], cs)
    else consChar c (readText none cs)
  | [] => none

def readQuoted : Reader String
  | '"' :: cs => (readText none cs).map fun (s, rest) => (.ofList s, rest)
  | _ => none

/-- The further things of a list up to `stop`, each after a comma. `fuel` bounds their number. -/
def further {α : Type} (item : Reader α) (stop : Char) : Nat → Reader (List α)
  | 0, _ => none
  | fuel + 1, cs =>
    match skipSpace cs with
    | [] => none
    | c :: cs =>
      if c = stop then some ([], cs)
      else if c = ',' then do
        let (a, cs) ← item cs
        let (as, cs) ← further item stop fuel cs
        return (a :: as, cs)
      else none

/-- The things of a list up to `stop`, with commas between them. -/
def listOf {α : Type} (item : Reader α) (stop : Char) : Reader (List α) := fun cs =>
  match skipSpace cs with
  | [] => none
  | c :: rest =>
    if c = stop then some ([], rest)
    else do
      let (a, cs) ← item (c :: rest)
      let (as, cs) ← further item stop (cs.length + 1) cs
      return (a :: as, cs)

/-- A member of an object: its name, a colon and its value. -/
def memberOf (item : Reader Json) : Reader (String × Json) := fun cs => do
  let (name, cs) ← readQuoted (skipSpace cs)
  match skipSpace cs with
  | ':' :: cs =>
    let (j, cs) ← item cs
    return ((name, j), cs)
  | _ => none

/-- A value that holds no others. -/
def readScalar : Reader Json
  | 'n' :: 'u' :: 'l' :: 'l' :: cs => some (.null, cs)
  | 't' :: 'r' :: 'u' :: 'e' :: cs => some (.bool true, cs)
  | 'f' :: 'a' :: 'l' :: 's' :: 'e' :: cs => some (.bool false, cs)
  | '"' :: cs => (readText none cs).map fun (s, rest) => (.text (.ofList s), rest)
  | cs => number cs

/-- A value, with arrays and objects nested at most `depth` deep. -/
def readValue : Nat → Reader Json
  | 0, cs => readScalar (skipSpace cs)
  | depth + 1, cs =>
    match skipSpace cs with
    | '[' :: rest => (listOf (readValue depth) ']' rest).map fun (js, cs) => (.array js, cs)
    | '\x7b' :: rest =>
      (listOf (memberOf (readValue depth)) '\x7d' rest).map fun (ms, cs) => (.ofMembers ms, cs)
    | rest => readScalar rest

def maxDepth : Nat := 127

/-- The value of a document: one value with nothing but white space around it. -/
def read (s : String) : Option Json :=
  match readValue maxDepth s.toList with
  | some (j, rest) => if (skipSpace rest).isEmpty then some j else none
  | none => none

end SchemaMigration.Json
