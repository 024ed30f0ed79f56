/-!
# Decimal digits of a number

A finite number is `mantissa · 2 ^ exponent`. Its decimal digits are chosen on a *grid*, the
multiples of a power of ten, in exact arithmetic on naturals.

## Main definitions

* `Binary.ofFloat` — sign, mantissa and exponent of a double.
* `Binary.shortest` — a point of the coarsest grid that has one among the reals that round to the
  number; of two such points, the nearer.
* `Binary.rounded` — the number to a given count of significant digits.
-/

namespace SchemaMigration.Decimal

/-- A double, taken apart. -/
inductive Binary where
  | nan
  | infinite (negative : Bool)
  /-- The number `mantissa · 2 ^ exponent`, below zero if `negative`. -/
  | finite (negative : Bool) (mantissa : Nat) (exponent : Int)
deriving DecidableEq, Repr

/-- The parts of a double, from the 1, 11 and 52 bits of its encoding. -/
def Binary.ofFloat (x : Float) : Binary :=
  let bits := x.toBits.toNat
  let negative := 0x8000000000000000 ≤ bits
  let scale : Nat := bits / 0x10000000000000 % 2048
  let fraction : Nat := bits % 0x10000000000000
  if scale = 2047 then if fraction = 0 then .infinite negative else .nan
  else if scale = 0 then .finite negative fraction (-1074)
  else .finite negative (0x10000000000000 + fraction) ((scale : Int) - 1075)

/-- What to do with a number halfway between two points of a grid. -/
inductive Tie where
  | up
  | even
deriving DecidableEq, Repr

/-- The decimal number `digits · 10 ^ place`. -/
structure Digits where
  digits : Nat
  place : Int
deriving DecidableEq, Repr

/-- The numerator of `2 ^ q / 10 ^ p`. -/
def scaleUp (q p : Int) : Nat := Nat.pow 2 q.toNat * Nat.pow 10 (-p).toNat

/-- The denominator of `2 ^ q / 10 ^ p`. -/
def scaleDown (q p : Int) : Nat := Nat.pow 2 (-q).toNat * Nat.pow 10 p.toNat

/-- The quotient of `num` and `den`, one more if it is nearer, and as `tie` says halfway. -/
def roundDiv (tie : Tie) (num den : Nat) : Nat :=
  let d := num / den
  let twice := 2 * (num % den)
  if twice < den then d
  else if den < twice then d + 1
  else match tie with
    | .up => d + 1
    | .even => if d % 2 = 0 then d else d + 1

/-- The reals that round to a number, as fractions of the unit `2 ^ unit`: from `low` to `high`,
with the ends if `closed`, around `value`. -/
structure Interval where
  low : Nat
  value : Nat
  high : Nat
  unit : Int
  closed : Bool
deriving DecidableEq, Repr

/-- The reals that round to `m · 2 ^ q`. They reach half a unit in the last place to either side;
below a power of two the numbers are twice as dense. An even mantissa draws the ends. -/
def Interval.ofFinite (m : Nat) (q : Int) : Interval where
  low := 4 * m - if m = 0x10000000000000 ∧ -1074 < q then 1 else 2
  value := 4 * m
  high := 4 * m + 2
  unit := q - 2
  closed := m % 2 = 0

/-- Holds if `d · 10 ^ p` lies in the interval. -/
def Interval.has (i : Interval) (p : Int) (d : Nat) : Bool :=
  let up := scaleUp i.unit p
  let down := scaleDown i.unit p
  if i.closed then i.low * up ≤ d * down && d * down ≤ i.high * up
  else i.low * up < d * down && d * down < i.high * up

/-- The point of the grid `10 ^ p` in the interval that is nearest to its value. The two neighbours
of the value on the grid are the only candidates. -/
def Interval.point? (i : Interval) (tie : Tie) (p : Int) : Option Nat :=
  let num := i.value * scaleUp i.unit p
  let den := scaleDown i.unit p
  let d := num / den
  if i.has p d then
    if i.has p (d + 1) then some (roundDiv tie num den) else some d
  else if i.has p (d + 1) then some (d + 1) else none

/-- The first of the grids `10 ^ p`, `10 ^ (p - 1)`, … with a point in the interval. -/
def Interval.search (i : Interval) (tie : Tie) : Nat → Int → Digits
  | 0, p => ⟨roundDiv tie (i.value * scaleUp i.unit p) (scaleDown i.unit p), p⟩
  | steps + 1, p =>
    match i.point? tie p with
    | some d => ⟨d, p⟩
    | none => i.search tie steps (p - 1)

/-- A power of ten beyond twice `m · 2 ^ q`: one more than `log10 2` (0.30103) times a bound on the
binary logarithm. -/
def placeAbove (m : Nat) (q : Int) : Int := (m.log2 + q + 2) * 30103 / 100000 + 1

/-- The digits of `m · 2 ^ q` on the coarsest grid that tells it from its neighbours. Seventeen
digits always do, so the search from a grid beyond the number ends. -/
def shortest (tie : Tie) (m : Nat) (q : Int) : Digits :=
  (Interval.ofFinite m q).search tie 25 (placeAbove m q)

/-- The grid of the leading digit of `m · 2 ^ q`, searched downwards from `p`. -/
def leadingPlace (m : Nat) (q : Int) : Nat → Int → Int
  | 0, p => p
  | steps + 1, p =>
    if scaleDown q p ≤ m * scaleUp q p then p else leadingPlace m q steps (p - 1)

/-- Digits without zeros at the end. -/
def dropZeros : Nat → Digits → Digits
  | 0, d => d
  | steps + 1, d =>
    if d.digits ≠ 0 ∧ d.digits % 10 = 0 then dropZeros steps ⟨d.digits / 10, d.place + 1⟩ else d

/-- The number `m · 2 ^ q` to `count` significant digits, without zeros at the end. -/
def rounded (tie : Tie) (count m : Nat) (q : Int) : Digits :=
  let p := leadingPlace m q 25 (placeAbove m q) - count + 1
  dropZeros (count + 1) ⟨roundDiv tie (m * scaleUp q p) (scaleDown q p), p⟩

end SchemaMigration.Decimal
