import DocumentQuery.Json.Basic
import DocumentQuery.Json.Written
import DocumentQuery.Text.Basic

/-!
# The value of a JSON number

A number without a fraction or an exponent is an integer if 64 bits hold it.
Every other number is a double, computed from as many of its digits as 64 bits
hold and one power of ten, by one multiplication or division of doubles. It is
no number if the result is too large.

* `Json.Numeral.number?`: the value of a spelling;
* `Json.Mantissa`: the digits gathered so far;
* `Json.scaled?`: a double times a power of ten.
-/

namespace DocumentQuery.Json

open Text (digitValue naturalOfDigits)

/-- The digits read so far as the number `significand * 10 ^ exponent`. A
digit that would take the significand past 64 bits makes it `full`. -/
structure Mantissa where
  significand : Nat
  exponent : Int
  full : Bool
  deriving DecidableEq, Repr

/-- A digit before the point. Past the first that does not fit, a digit only
moves the point. -/
def Mantissa.whole (m : Mantissa) (c : Char) : Mantissa :=
  let next := m.significand * 10 + digitValue c
  if m.full || UInt64.size ≤ next then { m with exponent := m.exponent + 1, full := true }
  else { m with significand := next }

/-- A digit after the point. The first that does not fit ends the significand. -/
def Mantissa.fraction (m : Mantissa) (c : Char) : Mantissa :=
  let next := m.significand * 10 + digitValue c
  if m.full || UInt64.size ≤ next then { m with full := true }
  else { m with significand := next, exponent := m.exponent - 1 }

/-- The digits of a number before its exponent is added. -/
def Numeral.mantissa (n : Numeral) : Mantissa :=
  let whole := n.whole.foldl Mantissa.whole ⟨0, 0, false⟩
  (n.fraction.getD []).foldl Mantissa.fraction { whole with full := false }

/-- `10 ^ n` as a double. -/
def powerOfTen (n : Nat) : Float := Float.ofScientific 1 false n

/-- A double times `10 ^ exponent`; none if it becomes infinite. An exponent
below -308 is taken in steps, until nothing is left of the double. -/
def scaled? (x : Float) (exponent : Int) : Option Float :=
  if exponent.natAbs ≤ 308 then
    if 0 ≤ exponent then
      let product := x * powerOfTen exponent.natAbs
      if product.isInf then none else some product
    else some (x / powerOfTen exponent.natAbs)
  else if x == 0 then some x
  else if 0 ≤ exponent then none
  else scaled? (x / powerOfTen 308) (exponent + 308)
termination_by exponent.natAbs

/-- A number as a double. An exponent past 32 bits leaves nothing but zero or
makes the number too large, whatever the digits are. -/
def Numeral.float? (n : Numeral) : Option Float := do
  let m := n.mantissa
  let magnitude ← match n.exponent with
    | none => scaled? (Float.ofNat m.significand) m.exponent
    | some (negative, digits) =>
      let power := naturalOfDigits digits
      if Nat.pow 2 31 ≤ power then
        if m.significand != 0 && !negative then none else some 0
      else
        scaled? (Float.ofNat m.significand)
          (if negative then m.exponent - power else m.exponent + power)
  return if n.negative then -magnitude else magnitude

/-- The value of a number. The negative zero is a double. -/
def Numeral.number? (n : Numeral) : Option Number :=
  let whole := naturalOfDigits n.whole
  if n.fraction.isNone && n.exponent.isNone then
    if !n.negative && whole < UInt64.size then some (.natural (UInt64.ofNat whole))
    else if n.negative && 0 < whole && whole ≤ Nat.pow 2 63 then
      some (.negative (Int64.ofInt (-whole)))
    else n.float?.map .float
  else n.float?.map .float

end DocumentQuery.Json
