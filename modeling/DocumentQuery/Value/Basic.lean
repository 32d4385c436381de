import DocumentQuery.Decimal
import DocumentQuery.Json.Printer
import DocumentQuery.Text.Message

/-!
# Values

The values of constants and parameters: what a scalar of a document can be.

* `Value`, `Value.Kind`: values and the five kinds of them;
* `Value.number?`: the double that a numeric value stands for;
* `Value.equals`: equality, where numbers of either kind compare;
* `Value.ofJson`: the value of a piece of a document;
* `Value.toText`: how messages show a value.
-/

namespace DocumentQuery

/-- A scalar value. -/
inductive Value
  | null
  | integer (i : Int64)
  | float (x : Float)
  | text (s : String)
  | boolean (b : Bool)
  deriving DecidableEq, Repr, Inhabited

/-- What sort of value a value is. -/
inductive Value.Kind
  | null
  | integer
  | float
  | text
  | boolean
  deriving DecidableEq, Repr

namespace Value

/-- The name of a kind in messages. -/
def Kind.name : Kind → String
  | .null => "NULL"
  | .integer => "INTEGER"
  | .float => "FLOAT"
  | .text => "TEXT"
  | .boolean => "BOOLEAN"

/-- The kind of a value. -/
def kind : Value → Kind
  | .null => .null
  | .integer _ => .integer
  | .float _ => .float
  | .text _ => .text
  | .boolean _ => .boolean

/-- The integer of an integer value; a float is none, whatever its value. -/
def integer? : Value → Option Int64
  | .integer i => some i
  | _ => none

/-- The double of a float, or the one nearest to an integer. -/
def number? : Value → Option Float
  | .float x => some x
  | .integer i => some (Float.ofInt i.toInt)
  | _ => none

/-- The characters of a text value. -/
def text? : Value → Option String
  | .text s => some s
  | _ => none

/-- The truth value of a boolean value. -/
def boolean? : Value → Option Bool
  | .boolean b => some b
  | _ => none

/-- Whether a value is the null value. -/
def isNull : Value → Bool
  | .null => true
  | _ => false

/-! ## Equality -/

/-- The distance below which two doubles count as equal, `2 ^ (-52)`. -/
def tolerance : Float := 2.220446049250313e-16

/-- Whether two doubles are closer than the tolerance. -/
def isNear (a b : Float) : Bool := (a - b).abs < tolerance

/-- Equality of values. Doubles are equal if they are near or if both are no
numbers; an integer is equal to a double near it. -/
def equals : Value → Value → Bool
  | .null, .null => true
  | .integer a, .integer b => a == b
  | .float a, .float b => (a.isNaN && b.isNaN) || isNear a b
  | .text a, .text b => a == b
  | .boolean a, .boolean b => a == b
  | .integer i, .float x => isNear (Float.ofInt i.toInt) x
  | .float x, .integer i => isNear (Float.ofInt i.toInt) x
  | _, _ => false

/-! ## From documents and to messages -/

/-- An integer that does not fit the signed range becomes a float. -/
def ofNumber : Json.Number → Value
  | .natural n =>
    if n.toNat < Nat.pow 2 63 then .integer (Int64.ofNat n.toNat) else .float (Float.ofNat n.toNat)
  | .negative i => .integer i
  | .float x => .float x

/-- The value of a piece of a document. Arrays and objects have their JSON text. -/
def ofJson : Json → Value
  | .null => .null
  | .bool b => .boolean b
  | .number n => ofNumber n
  | .string s => .text s
  | json => .text json.text

/-- Doubles in messages never have an exponent, and of two equally near
decimals take the upper one. -/
def numberLayout : Decimal.Layout where
  tie := .upward
  isPositional _ := true
  hasFraction := false

/-- The text of a double in a message. -/
def floatText (x : Float) : String := Decimal.write numberLayout x

/-- The text of a value in a message. -/
def toText : Value → String
  | .null => "NULL"
  | .integer i => toString i.toInt
  | .float x => floatText x
  | .text s => Text.inQuotes s
  | .boolean b => if b then "true" else "false"

end Value

end DocumentQuery
