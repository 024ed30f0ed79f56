import SchemaMigration.Dict
import SchemaMigration.Text.Basic

/-!
# Quoted identifiers

A table or column name may be a template in double braces: a percent sign at its start stands for a
configured text before the name, one at its end for a text after it. The name is then made safe and
put between backticks, unless the options give its full text.

## Main definitions

* `Identifier.resolve` — a template with its ends filled in.
* `Identifier.escape` — a name without characters that have a meaning in statements.
* `Quoter` — the options, and quoting with them.
-/

namespace SchemaMigration

namespace Identifier

open Chars

/-- The body of a template, the text between double braces. -/
def templateBody? (cs : List Char) : Option (List Char) :=
  (stripStart? ['\x7b', '\x7b'] cs).bind (stripEnd? ['\x7d', '\x7d'])

/-- A leading percent sign replaced. -/
def fillStart (before : List Char) : List Char → List Char
  | '%' :: cs => before ++ cs
  | cs => cs

/-- A trailing percent sign replaced. -/
def fillEnd (after cs : List Char) : List Char :=
  match stripEnd? ['%'] cs with
  | some rest => rest ++ after
  | none => cs

/-- The name that a template stands for: its start is filled in first, then the end of the result.
A name that is no template is left as it is. -/
def resolve (before after name : List Char) : List Char :=
  match templateBody? name with
  | some body => fillEnd after (fillStart before body)
  | none => name

/-- The text of a character in markup. -/
def markup (c : Char) : List Char :=
  if c = '&' then "&amp;".toList
  else if c = '<' then "&lt;".toList
  else if c = '>' then "&gt;".toList
  else if c = '\'' then "&#39;".toList
  else if c = '"' then "&#34;".toList
  else if c = '\x00' then ['\ufffd']
  else [c]

/-- The characters that get a backslash. -/
def guarded : List Char := [',', ';', '^', '.', '&', '*', '\'', '"']

/-- A character behind a backslash if it is guarded. A space is dropped. -/
def guard (c : Char) : List Char :=
  if c = ' ' then [] else if guarded.contains c then ['\\', c] else [c]

/-- A name in markup, with its guarded characters behind backslashes and without spaces. -/
def escape (cs : List Char) : List Char := (cs.flatMap markup).flatMap guard

end Identifier

/-- A kind of name: the options with the texts before and after it, and the group of options that
give the full text of a name. -/
structure NameKind where
  beforeKey : String
  afterKey : String
  group : String
deriving DecidableEq, Repr

namespace NameKind

def table : NameKind := ⟨"table_prefix", "table_suffix", "tableMap"⟩

def column : NameKind := ⟨"column_prefix", "column_suffix", "columnMap"⟩

end NameKind

/-- Quotes names by a set of options. -/
structure Quoter where
  options : Dict String := []
deriving DecidableEq, Repr, Inhabited

namespace Quoter

/-- The value of an option, empty if it is not set. -/
def option (q : Quoter) (key : String) : String := (q.options.get? key).getD ""

def set (q : Quoter) (key value : String) : Quoter := ⟨q.options.insert key value⟩

/-- The name without its template, made safe. -/
def safeName (q : Quoter) (kind : NameKind) (name : String) : String :=
  .ofList (Identifier.escape
    (Identifier.resolve (q.option kind.beforeKey).toList (q.option kind.afterKey).toList
      name.toList))

/-- The full text that the options give for a safe name. An empty text does not count. -/
def override? (q : Quoter) (kind : NameKind) (safe : String) : Option String :=
  (q.options.get? (kind.group ++ "." ++ safe)).filter (!·.isEmpty)

/-- A name, quoted. The empty name stays empty. -/
def quote (q : Quoter) (kind : NameKind) (name : String) : String :=
  if name.isEmpty then ""
  else
    let safe := q.safeName kind name
    match q.override? kind safe with
    | some full => full
    | none => "\x60" ++ safe ++ "\x60"

def table (q : Quoter) (name : String) : String := q.quote .table name

def column (q : Quoter) (name : String) : String := q.quote .column name

/-- The column names that are not empty, quoted and joined by commas. -/
def columns (q : Quoter) (names : List String) : String :=
  ", ".intercalate ((names.filter (!·.isEmpty)).map q.column)

/-- Without an option for its full text a name is its safe form between backticks. -/
theorem quote_of_override?_eq_none {q : Quoter} {kind : NameKind} {name : String}
    (hn : name.isEmpty = false) (h : q.override? kind (q.safeName kind name) = none) :
    q.quote kind name = "\x60" ++ q.safeName kind name ++ "\x60" := by
  simp [quote, hn, h]

end Quoter

end SchemaMigration
