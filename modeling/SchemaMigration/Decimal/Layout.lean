import SchemaMigration.Decimal.Digits

/-!
# Layouts of a number

How a number is written: which digits, where the point stands and when an exponent is used. A
`Layout` holds these decisions; the modules that write numbers each have one.
-/

namespace SchemaMigration.Decimal

/-- The decisions of a number format. -/
structure Layout where
  /-- The count of significant digits, or the fewest that read back. -/
  count : Option Nat
  /-- Which of two equally near decimals is taken. -/
  tie : Tie
  /-- Whether no exponent is used, by the number of digits before the point. -/
  positional : Int → Bool
  /-- What follows a whole number without an exponent. -/
  wholeEnd : String
  /-- Whether an exponent above zero has a sign. -/
  exponentPlus : Bool
  /-- The least number of digits of an exponent. -/
  exponentWidth : Nat
  /-- The text of a number that is not one. -/
  nan : String
  /-- The text of the infinity above zero, and of the one below. -/
  infinite : Bool → String

namespace Layout

/-- The digits of `m · 2 ^ q`, `m` not zero, that the layout writes. -/
def digits (l : Layout) (m : Nat) (q : Int) : Digits :=
  match l.count with
  | none => shortest l.tie m q
  | some n => rounded l.tie n m q

/-- Digits without an exponent: filled up with zeros to the point, on either side of it. -/
def plain (l : Layout) (d : Digits) : List Char :=
  let ds := Nat.toDigits 10 d.digits
  let point : Int := ds.length + d.place
  if 0 ≤ d.place then ds ++ List.replicate d.place.toNat '0' ++ l.wholeEnd.toList
  else if 0 < point then ds.take point.toNat ++ '.' :: ds.drop point.toNat
  else '0' :: '.' :: (List.replicate (-point).toNat '0' ++ ds)

/-- An exponent with its sign, filled up with zeros. -/
def exponent (l : Layout) (e : Int) : List Char :=
  let ds := Nat.toDigits 10 e.natAbs
  (if e < 0 then ['-'] else if l.exponentPlus then ['+'] else []) ++
    List.replicate (l.exponentWidth - ds.length) '0' ++ ds

/-- Digits with an exponent: one digit before the point. -/
def scientific (l : Layout) (d : Digits) : List Char :=
  let ds := Nat.toDigits 10 d.digits
  ds.take 1 ++ (if ds.length ≤ 1 then [] else '.' :: ds.drop 1) ++
    'e' :: l.exponent (ds.length + d.place - 1)

def magnitude (l : Layout) (m : Nat) (q : Int) : List Char :=
  let d := if m = 0 then ⟨0, 0⟩ else l.digits m q
  if l.positional ((Nat.toDigits 10 d.digits).length + d.place) then l.plain d else l.scientific d

/-- The text of a number. Zero keeps its sign. -/
def write (l : Layout) (x : Float) : String :=
  match Binary.ofFloat x with
  | .nan => l.nan
  | .infinite negative => l.infinite negative
  | .finite negative m q =>
    .ofList (if negative then '-' :: l.magnitude m q else l.magnitude m q)

end Layout

end SchemaMigration.Decimal
