import DocumentQuery.Error

/-!
# Order of values

* `Value.compare`: the order of two values of comparable kinds, with the null
  value below all others.
-/

namespace DocumentQuery.Value

/-- The order of two doubles, unless one of them is no number. -/
def order? (a b : Float) : Option Ordering :=
  if a < b then some .lt
  else if a == b then some .eq
  else if b < a then some .gt
  else none

/-- The order of two doubles as numbers. -/
def compareFloats (a b : Float) : Except Error Ordering :=
  match order? a b with
  | some ordering => .ok ordering
  | none => .error (.expression (.unordered a b))

/-- The order of two values. Texts are ordered by their code points, integers
among themselves exactly, and an integer and a double as doubles. -/
def compare : Value → Value → Except Error Ordering
  | .null, .null => .ok .eq
  | .null, _ => .ok .lt
  | _, .null => .ok .gt
  | .integer a, .integer b => .ok (Ord.compare a.toInt b.toInt)
  | .text a, .text b => .ok (compareOfLessAndEq a b)
  | .boolean a, .boolean b => .ok (Ord.compare a.toNat b.toNat)
  | .float a, .float b => compareFloats a b
  | .float a, .integer b => compareFloats a (Float.ofInt b.toInt)
  | .integer a, .float b => compareFloats (Float.ofInt a.toInt) b
  | a, b => .error (.expression (.incomparable a.kind b.kind))

end DocumentQuery.Value
