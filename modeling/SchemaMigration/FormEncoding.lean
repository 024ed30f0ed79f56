import SchemaMigration.Text.Basic
import SchemaMigration.Text.Utf8

/-!
# Form encoding

Pairs of a name and a value as one text, in the format `application/x-www-form-urlencoded`: `&`
between pairs, `=` between name and value, `+` for a space and `%` before the two hexadecimal
digits of a byte. Every text can be read: what is no escape stands for itself.

## Main definitions

* `FormEncoding.component` — the text that a name or a value stands for.
* `FormEncoding.read` — the pairs of a text.
-/

namespace SchemaMigration.FormEncoding

open Chars

def hexValue? (b : UInt8) : Option UInt8 :=
  if 48 ≤ b ∧ b ≤ 57 then some (b - 48)
  else if 97 ≤ b ∧ b ≤ 102 then some (b - 87)
  else if 65 ≤ b ∧ b ≤ 70 then some (b - 55)
  else none

/-- The bytes with every escape of two hexadecimal digits read. -/
def unescape : List UInt8 → List UInt8
  | b :: high :: low :: bs =>
    if b = 37 then
      match hexValue? high, hexValue? low with
      | some x, some y => (16 * x + y) :: unescape bs
      | _, _ => b :: unescape (high :: low :: bs)
    else b :: unescape (high :: low :: bs)
  | b :: bs => b :: unescape bs
  | [] => []

/-- The text that a name or a value stands for. Plus signs are spaces before escapes are read. -/
def component (cs : List Char) : List Char :=
  Utf8.decodeLossy (unescape (Utf8.encode (cs.map fun c => if c = '+' then ' ' else c)))

/-- The pair of a piece: name and value around the first `=`, an empty value without one. -/
def pair (cs : List Char) : String × String :=
  match cut? '=' cs with
  | some (name, value) => (.ofList (component name), .ofList (component value))
  | none => (.ofList (component cs), "")

/-- The pairs of a text. Empty pieces do not count. -/
def read (s : String) : List (String × String) :=
  ((splitOn '&' s.toList).filter (!·.isEmpty)).map pair

end SchemaMigration.FormEncoding
