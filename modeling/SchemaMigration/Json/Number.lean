import SchemaMigration.Decimal.Reader
import SchemaMigration.Json.Basic

/-!
# Reading JSON numbers

A number's digits are gathered in 64 bits, and digits that no longer fit are dropped. A number with
a point or an exponent is then scaled by one power of ten. So a number of many digits need not be
the double nearest to its text, but it is the same double every time.
-/

namespace SchemaMigration.Json

/-- The largest number of 64 bits. -/
def wordMax : Nat := 0xFFFFFFFFFFFFFFFF

/-- Appends leading digits to `n` as long as 64 bits hold the result. The answer has the number,
how many digits it took, and the rest. -/
def takeDigits (n : Nat) : List Char → Nat × Nat × List Char
  | [] => (n, 0, [])
  | c :: cs =>
    let m := 10 * n + (c.toNat - '0'.toNat)
    if c.isDigit && m ≤ wordMax then
      let (r, count, rest) := takeDigits m cs
      (r, count + 1, rest)
    else (n, 0, c :: cs)

/-- The number `n · 10 ^ e` by one division or multiplication, preceded by divisions by `10 ^ 308`
while `e` is below that. None of a size that no double has. Three divisions leave zero. -/
def scale (n : Float) (e : Int) : Nat → Option Float
  | 0 => some 0
  | steps + 1 =>
    if e.natAbs ≤ 308 then
      if 0 ≤ e then
        let x := n * Decimal.toFloat 1 e
        if x == 1 / 0 then none else some x
      else some (n / Decimal.toFloat 1 (e.natAbs : Int))
    else if n == 0 then some n
    else if 0 ≤ e then none
    else scale (n / Decimal.toFloat 1 308) (e + 308) steps

/-- The double of a sign, gathered digits and an exponent. -/
def ofParts (negative : Bool) (n : Nat) (e : Int) : Option Json :=
  (scale (Decimal.toFloat n 0) e 4).map fun x => .float (if negative then -x else x)

/-- The exponent at the head of a text: mark, optional sign, digits. None if there is no mark. -/
def takeExponent? (cs : List Char) : Option (Option Int × List Char) :=
  match cs with
  | [] => none
  | c :: cs =>
    if c = 'e' ∨ c = 'E' then
      let (negative, cs) := Decimal.takeSign cs
      let ds := cs.takeWhile Char.isDigit
      let n : Int := Decimal.natOfDigits ds
      some (if ds.isEmpty then none else some (if negative then -n else n),
        cs.dropWhile Char.isDigit)
    else none

/-- A number with a point or an exponent, after its digits: reads the exponent, if there is one. -/
def finish (negative : Bool) (n : Nat) (e : Int) (cs : List Char) : Option (Json × List Char) :=
  match takeExponent? cs with
  | none => (ofParts negative n e).map (·, cs)
  | some (none, _) => none
  | some (some f, rest) => (ofParts negative n (e + f)).map (·, rest)

/-- The digits after a point. There is at least one; those that do not fit are dropped. -/
def fraction (negative : Bool) (n : Nat) (e : Int) (cs : List Char) : Option (Json × List Char) :=
  if (cs.takeWhile Char.isDigit).isEmpty then none
  else
    let (m, count, rest) := takeDigits n cs
    finish negative m (e - count) (rest.dropWhile Char.isDigit)

/-- A whole number: kept as such if it fits a 64-bit integer, signed if below zero. Minus zero is
a double. -/
def whole (negative : Bool) (n : Nat) : Json :=
  if negative then
    if n = 0 ∨ 0x8000000000000000 < n then .float (-Decimal.toFloat n 0) else .int (-n)
  else .int n

/-- A number at the head of a text, after its sign. No zero precedes other digits. -/
def unsigned (negative : Bool) (cs : List Char) : Option (Json × List Char) :=
  let ds := cs.takeWhile Char.isDigit
  if ds.isEmpty || (ds.head? == some '0' && 1 < ds.length) then none
  else
    let (n, count, _) := takeDigits 0 cs
    let dropped : Int := ds.length - count
    match cs.dropWhile Char.isDigit with
    | '.' :: rest => fraction negative n dropped rest
    | rest =>
      if dropped = 0 ∧ (takeExponent? rest).isNone then some (whole negative n, rest)
      else finish negative n dropped rest

def number : List Char → Option (Json × List Char)
  | '-' :: cs => unsigned true cs
  | cs => unsigned false cs

end SchemaMigration.Json
