import SchemaMigration.Connection.Option
import SchemaMigration.Text.Word

/-!
# Environment files

A file of assignments `NAME=value` adds variables to the environment. Those that are set already
stay as they are. Reading stops at the first assignment that is not well formed; the ones before it
count.

## Main definitions

* `EnvironmentFile.assignments` — the texts of the assignments. Quotes let one go over several
  lines.
* `EnvironmentFile.value?` — a value, with quotes, escapes and references to variables.
* `EnvironmentFile.extend` — the environment with the variables of a file.
-/

namespace SchemaMigration.EnvironmentFile

open Chars

/-! ## Assignments -/

/-- Where a line stands with its quotes. -/
inductive Quotation where
  | none
  /-- After a white space character, where a comment may start. -/
  | blank
  | escape
  | double
  | doubleEscape
  | single
  | singleEscape
deriving DecidableEq, Repr

/-- The state that a character outside of quotes leads to. -/
def Quotation.start (c : Char) : Quotation :=
  if c = '\\' then .escape
  else if c = '"' then .double
  else if c = '\'' then .single
  else .none

/-- The state after a character. There is none where a comment starts. -/
def Quotation.next? (c : Char) : Quotation → Option Quotation
  | .none =>
    if isBlank c && c != '\n' && c != '\r' then some .blank else some (.start c)
  | .blank => if c = '#' then Option.none else some (.start c)
  | .escape => some .none
  | .double => some (if c = '\\' then .doubleEscape else if c = '"' then .none else .double)
  | .doubleEscape => some .double
  | .single => some (if c = '\\' then .singleEscape else if c = '\'' then .none else .single)
  | .singleEscape => some .single

/-- The part of a line before a comment, and the state at its end; no state if there is a comment.
-/
def uncommented (q : Quotation) : List Char → List Char × Option Quotation
  | [] => ([], some q)
  | c :: cs =>
    match q.next? c with
    | some q =>
      let (before, q?) := uncommented q cs
      (c :: before, q?)
    | none => ([], none)

/-- The lines of a text, each with its line end. -/
def lines : List Char → List (List Char)
  | [] => []
  | c :: cs =>
    if c = '\n' then [c] :: lines cs
    else
      match lines cs with
      | [] => [[c]]
      | line :: rest => (c :: line) :: rest

/-- The texts of the assignments of lines. What the lines before left open is in `gathered`; at the
end nothing may be open. -/
def gather (gathered : List Char) (q : Quotation) : List (List Char) → List (Option (List Char))
  | [] => if q = .none then [] else [none]
  | line :: rest =>
    if (trimStart (gathered ++ line)).head? == some '#' then gather [] .none rest
    else
      match uncommented q line with
      | (before, none) => some (gathered ++ before) :: gather [] .none rest
      | (_, some .none) => some (gathered ++ line) :: gather [] .none rest
      | (_, some q) => gather (gathered ++ line) q rest

/-- The texts of the assignments of a file; the last is missing if it has no end. -/
def assignments (text : String) : List (Option (List Char)) :=
  gather [] .none (lines ((stripStart? ['\ufeff'] text.toList).getD text.toList))

/-! ## Values -/

/-- What the next character of a value belongs to. -/
inductive Place where
  | plain (quoted : Bool)
  /-- Between single quotes, where every other character stands for itself. -/
  | single
  | escape (quoted : Bool)
  /-- The name of a variable after a dollar sign. -/
  | variable (quoted : Bool) (name : List Char)
  /-- The name of a variable between braces. -/
  | braced (quoted : Bool) (name : List Char)
  /-- After the value, where only blanks and a comment may stand. -/
  | ended
deriving DecidableEq, Repr

/-- The character that an escape stands for. -/
def escaped? (c : Char) : Option Char :=
  if c = 'n' then some '\n'
  else if ['\\', '\'', '"', '$', ' '].contains c then some c
  else none

/-- Holds for the characters of a variable's name without braces. -/
def isNameChar (c : Char) : Bool := c != '_' && isWord c

/-- The value that a text denotes, with `look` for the values of variables. -/
def value? (look : List Char → List Char) : Place → List Char → Option (List Char)
  | .plain false, [] | .escape false, [] | .ended, [] => some []
  | .variable false name, [] => some (look name)
  | _, [] => none
  | .ended, c :: cs =>
    if c = ' ' ∨ c = '\t' then value? look .ended cs else if c = '#' then some [] else none
  | .escape quoted, c :: cs => do
    let d ← escaped? c
    let ds ← value? look (.plain quoted) cs
    return d :: ds
  | .single, c :: cs =>
    if c = '\'' then value? look (.plain false) cs else (value? look .single cs).map (c :: ·)
  | .variable quoted name, c :: cs =>
    if isNameChar c then value? look (.variable quoted (name ++ [c])) cs
    else if c = '\x7b' ∧ name = [] then value? look (.braced quoted []) cs
    else if c = '$' then (value? look (.variable quoted []) cs).map (look name ++ ·)
    else (value? look (.plain quoted) cs).map (look name ++ c :: ·)
  | .braced quoted name, c :: cs =>
    if c = '\x7d' then (value? look (.plain quoted) cs).map (look name ++ ·)
    else value? look (.braced quoted (name ++ [c])) cs
  | .plain quoted, c :: cs =>
    if c = '$' then value? look (.variable quoted []) cs
    else if c = '\\' then value? look (.escape quoted) cs
    else if c = '"' then value? look (.plain (!quoted)) cs
    else if quoted then (value? look (.plain quoted) cs).map (c :: ·)
    else if c = '\'' then value? look .single cs
    else if c = ' ' ∨ c = '\t' then value? look .ended cs
    else (value? look (.plain quoted) cs).map (c :: ·)

/-! ## The environment -/

/-- A name at the start of a text, and what follows it without leading white space. -/
def name? (cs : List Char) : Option (List Char × List Char) :=
  match cs with
  | [] => none
  | c :: _ =>
    if c.isAlpha || c == '_' then
      let isPart (c : Char) : Bool := c.isAlphanum || c == '_' || c == '.'
      some (cs.takeWhile isPart, trimStart (cs.dropWhile isPart))
    else none

/-- The name and the text of the value of an assignment. The word `export` may stand in front. -/
def split? (cs : List Char) : Option (List Char × List Char) := do
  let (name, rest) ← name? cs
  match rest with
  | '=' :: rest => return (name, trimStart rest)
  | rest =>
    if name = "export".toList then
      match ← name? rest with
      | (name, '=' :: rest) => return (name, trimStart rest)
      | _ => none
    else none

/-- The value of a variable that a value refers to, empty if it has none. -/
def look (env : Environment) (name : List Char) : List Char :=
  ((env.get? (.ofList name)).getD "").toList

/-- The environment with an assignment. Empty ones and comments change nothing. -/
def assign (env : Environment) (cs : List Char) : Option Environment :=
  let cs := trimStart (trimEnd cs)
  if cs.isEmpty || cs.head? == some '#' then some env
  else do
    let (name, rest) ← split? cs
    let v ← if rest.head? == some '#' then some [] else value? (look env) (.plain false) rest
    if env.has (.ofList name) then return env
    else return env.insert (.ofList name) (.ofList v)

/-- The environment with assignments, up to the first that is not well formed. -/
def assignAll (env : Environment) : List (Option (List Char)) → Environment
  | [] | none :: _ => env
  | some cs :: rest =>
    match assign env cs with
    | some env => assignAll env rest
    | none => env

def extend (env : Environment) (text : String) : Environment := assignAll env (assignments text)

end SchemaMigration.EnvironmentFile
