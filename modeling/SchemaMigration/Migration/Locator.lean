import SchemaMigration.Error
import SchemaMigration.FormEncoding

/-!
# Locators

A locator `lua://<path>[?<query>]` names a directory of migration scripts. The query is form
encoded.

## Main definitions

* `Locator.parse` — the locator of a text.
-/

namespace SchemaMigration

/-- A directory of migration scripts, with parameters. -/
structure Locator where
  path : String
  query : Dict String := []
deriving DecidableEq, Repr, Inhabited

namespace Locator

def schemeMark : List Char := [':', '/', '/']

/-- The path and the query of what follows the scheme. The first question mark ends the path. -/
def splitQuery (rest : List Char) : List Char × List Char :=
  (Chars.cut? '?' rest).getD (rest, [])

/-- The locator of a text. White space at its ends does not count, nor does the case of the letters
of the scheme. Of two parameters with one name the later wins. -/
def parse (text : String) : Except ConfigurationError Locator :=
  let url := Text.trim text
  if url.isEmpty then .error .emptyLocator
  else
    match Chars.cutAt? schemeMark url.toList with
    | none => .error (.locatorWithoutScheme url)
    | some (scheme, rest) =>
      if scheme.map Char.toLower ≠ scriptScheme.toList then
        .error (.unsupportedScheme (.ofList scheme))
      else
        let (path, query) := splitQuery rest
        if path.isEmpty then .error (.locatorWithoutPath url)
        else .ok ⟨.ofList path, Dict.ofList (FormEncoding.read (.ofList query))⟩

theorem splitQuery_of_notMem {rest : List Char} (h : '?' ∉ rest) :
    splitQuery rest = (rest, []) := by
  simp [splitQuery, Chars.cut?_eq_none_iff.2 h]

theorem splitQuery_append_cons {path : List Char} (h : '?' ∉ path) (query : List Char) :
    splitQuery (path ++ '?' :: query) = (path, query) := by
  simp [splitQuery, Chars.cut?_append_cons h]

end Locator

end SchemaMigration
