/-!
# Reading a number

The text of a number, with sign, point and exponent, as the double nearest to it.
-/

namespace SchemaMigration.Decimal

/-- The double nearest to `digits · 10 ^ place`. A number beyond `10 ^ 310` is infinite and one
below `10 ^ -330` is zero, so that the power stays small. -/
def toFloat (digits : Nat) (place : Int) : Float :=
  let size : Int := (Nat.toDigits 10 digits).length + place
  if digits = 0 ∨ size < -330 then 0
  else if 310 < size then 1 / 0
  else Float.ofScientific digits (place < 0) place.natAbs

def natOfDigits (ds : List Char) : Nat := ds.foldl (fun n d => 10 * n + (d.toNat - '0'.toNat)) 0

def takeSign : List Char → Bool × List Char
  | '-' :: cs => (true, cs)
  | '+' :: cs => (false, cs)
  | cs => (false, cs)

/-- The exponent after a number's digits: a mark, an optional sign and at least one digit, up to
the end. Without a mark nothing may follow. -/
def exponent? : List Char → Option Int
  | [] => some 0
  | c :: cs =>
    if c = 'e' ∨ c = 'E' then
      let (negative, ds) := takeSign cs
      if ds.isEmpty || !ds.all Char.isDigit then none
      else some (if negative then -(natOfDigits ds : Int) else natOfDigits ds)
    else none

/-- A number without a sign: digits with at most one point, at least one digit, then an optional
exponent. -/
def unsigned? (cs : List Char) : Option Float :=
  let whole := cs.takeWhile Char.isDigit
  let (fraction, rest) :=
    match cs.dropWhile Char.isDigit with
    | '.' :: rest => (rest.takeWhile Char.isDigit, rest.dropWhile Char.isDigit)
    | rest => ([], rest)
  let ds := whole ++ fraction
  if ds.isEmpty then none
  else (exponent? rest).map fun e => toFloat (natOfDigits ds) (e - fraction.length)

/-- The number that a text denotes: an optional sign, then a number, or `inf`, `infinity` or `nan`
in any case of letters. -/
def float? (s : String) : Option Float :=
  let (negative, cs) := takeSign s.toList
  let magnitude :=
    if cs.map Char.toLower ∈ ["inf".toList, "infinity".toList] then some (1 / 0)
    else if cs.map Char.toLower = "nan".toList then some (0 / 0)
    else unsigned? cs
  magnitude.map fun x => if negative then -x else x

/-- The natural number that a text of decimal digits denotes, with an optional plus sign. -/
def nat? (s : String) : Option Nat :=
  let ds := match s.toList with
    | '+' :: cs => cs
    | cs => cs
  if ds.isEmpty || !ds.all Char.isDigit then none else some (natOfDigits ds)

end SchemaMigration.Decimal
