/-!
# Writing a double

A double is written with the digits of its shortest decimal, either around a
point at its place or around a point after the first digit and with an
exponent.

Of the decimals that are read back as a given double, the ones on the coarsest
grid `10 ^ k` have the fewest digits. A grid has such a decimal only if one of
the value's two neighbours on it is read back, so the search tries these two,
from the coarsest grid that can matter downwards, in exact arithmetic.

* `Decimal`: a number on a decimal grid;
* `Decimal.Magnitude`: a positive double as `significand * 2 ^ exponent`;
* `Decimal.Parts`, `Decimal.Parts.ofBits`: what the 64 bits of a double say;
* `Decimal.Gap`: the decimals read back as a magnitude, between two bounds;
* `Decimal.shortest`: the neighbour on the coarsest grid that has one;
* `Decimal.Layout`: what the two places that write doubles decide for themselves;
* `Decimal.write`: the text of a double in a layout.
-/

namespace DocumentQuery

/-- The number `digits * 10 ^ exponent`. -/
structure Decimal where
  digits : Nat
  exponent : Int
  deriving DecidableEq, Repr

namespace Decimal

/-! ## The parts of a double -/

/-- The number `significand * 2 ^ exponent`. -/
structure Magnitude where
  significand : Nat
  exponent : Int
  deriving DecidableEq, Repr

/-- What the 64 bits of a double say. -/
inductive Parts
  | nan
  | infinite (negative : Bool)
  | zero (negative : Bool)
  | finite (negative : Bool) (magnitude : Magnitude)
  deriving DecidableEq, Repr

/-- One sign bit, eleven bits of exponent, 52 bits of fraction. The least
exponent has no leading bit in its significand, the greatest is kept for the
infinities and the values that are no numbers. -/
def Parts.ofBits (bits : UInt64) : Parts :=
  let negative := bits.toNat / Nat.pow 2 63 == 1
  let exponent : Nat := bits.toNat / Nat.pow 2 52 % Nat.pow 2 11
  let fraction : Nat := bits.toNat % Nat.pow 2 52
  if exponent == 2047 then
    if fraction == 0 then .infinite negative else .nan
  else if exponent == 0 then
    if fraction == 0 then .zero negative else .finite negative ⟨fraction, -1074⟩
  else .finite negative ⟨Nat.pow 2 52 + fraction, (exponent : Int) - 1075⟩

/-! ## The shortest decimal -/

/-- Which of two equally near decimals is taken. -/
inductive Tie
  | upward
  | toEven
  deriving DecidableEq, Repr

/-- The reals that round to a magnitude lie between `low` and `high`, in
quarters of a unit of its significand; the ends belong to them if `closed`. -/
structure Gap where
  low : Nat
  value : Nat
  high : Nat
  closed : Bool

/-- Half a unit on either side, but a quarter below a power of two, where the
doubles get twice as dense. The ends round to the even significand. -/
def Magnitude.gap (m : Magnitude) : Gap where
  low := 4 * m.significand - (if m.significand == Nat.pow 2 52 && m.exponent > -1074 then 1 else 2)
  value := 4 * m.significand
  high := 4 * m.significand + 2
  closed := m.significand % 2 == 0

/-- Whether the gap holds `point / scale`. -/
def Gap.holds (gap : Gap) (scale point : Nat) : Bool :=
  if gap.closed then gap.low * scale ≤ point && point ≤ gap.high * scale
  else gap.low * scale < point && point < gap.high * scale

/-- The neighbour of the magnitude on the grid `10 ^ k` that is read back as
it, the nearer one if both are. A step of the grid is `step` and a quarter of
a unit is `quarter`, in a common measure. -/
def neighbour? (tie : Tie) (m : Magnitude) (k : Int) : Option Decimal :=
  let shift := m.exponent - 2
  let step := Nat.pow 10 k.toNat * Nat.pow 2 (-shift).toNat
  let quarter := Nat.pow 2 shift.toNat * Nat.pow 10 (-k).toNat
  let gap := m.gap
  let below := gap.value * quarter / step
  let above := below + 1
  match gap.holds quarter (below * step), gap.holds quarter (above * step) with
  | true, true =>
    let short := gap.value * quarter - below * step
    let long := above * step - gap.value * quarter
    let takeBelow := short < long ||
      (short == long && tie == .toEven && below % 2 == 0)
    some ⟨if takeBelow then below else above, k⟩
  | true, false => some ⟨below, k⟩
  | false, true => some ⟨above, k⟩
  | false, false => none

/-- The neighbour on the coarsest of the grids `10 ^ k`, `10 ^ (k - 1)`, …. -/
def shortestFrom (tie : Tie) (m : Magnitude) : Nat → Int → Decimal
  | 0, k => ⟨0, k⟩
  | fuel + 1, k => (neighbour? tie m k).getD (shortestFrom tie m fuel (k - 1))

/-- The shortest decimal that is read back as the magnitude. No double reaches
`10 ^ 309`, and a step of `10 ^ (-324)` is shorter than half a unit of the
least exponent, so one of these 634 grids has it. -/
def shortest (tie : Tie) (m : Magnitude) : Decimal := shortestFrom tie m 634 309

/-! ## Its text -/

/-- The decisions of a place that writes doubles. -/
structure Layout where
  /-- Which of two shortest decimals at the same distance is written. -/
  tie : Tie
  /-- Whether a number between `10 ^ e` and `10 ^ (e + 1)` has its point at its place. -/
  isPositional : Int → Bool
  /-- Whether a whole number is written with a zero after the point. -/
  hasFraction : Bool

/-- Digits around the point, filled up with zeros on either side. -/
def positional (hasFraction : Bool) (digits : List Char) (exponent : Int) : List Char :=
  let point := digits.length + exponent
  if 0 ≤ exponent then
    digits ++ List.replicate exponent.toNat '0' ++ (if hasFraction then ['.', '0'] else [])
  else if 0 < point then digits.take point.toNat ++ '.' :: digits.drop point.toNat
  else ['0', '.'] ++ List.replicate (-point).toNat '0' ++ digits

/-- One digit before the point, the others after it, and a signed exponent. -/
def scientific (digits : List Char) (exponent : Int) : List Char :=
  let power := digits.length + exponent - 1
  let mantissa := match digits with
    | first :: second :: rest => first :: '.' :: second :: rest
    | short => short
  mantissa ++ ['e', if power < 0 then '-' else '+'] ++ Nat.toDigits 10 power.natAbs

/-- A decimal in the form that the layout has for its size. -/
def Layout.digits (layout : Layout) (d : Decimal) : List Char :=
  let digits := Nat.toDigits 10 d.digits
  if layout.isPositional (digits.length + d.exponent - 1) then
    positional layout.hasFraction digits d.exponent
  else scientific digits d.exponent

/-- The text of a double. -/
def write (layout : Layout) (x : Float) : String :=
  let sign (negative : Bool) := if negative then "-" else ""
  match Parts.ofBits x.toBits with
  | .nan => "NaN"
  | .infinite negative => sign negative ++ "inf"
  | .zero negative => sign negative ++ (if layout.hasFraction then "0.0" else "0")
  | .finite negative m => sign negative ++ String.ofList (layout.digits (shortest layout.tie m))

end Decimal

end DocumentQuery
