import DocumentQuery.Json.Numeral

/-!
# Reading a JSON value

* `Json.Written.value?`: what a written text means;
* `Json.parse?`: the value of a text.
-/

namespace DocumentQuery.Json

mutual

/-- The value of a text that may nest arrays and objects `depth` times more. A
half of a character in a string and a number that is too large mean nothing. -/
def Written.value? : Nat → Written → Option Json
  | _, .null => some .null
  | _, .bool b => some (.bool b)
  | _, .number n => n.number?.map .number
  | _, .string s => (text? s).map fun cs => .string (String.ofList cs)
  | 0, .array _ => none
  | depth + 1, .array items => (Written.items? depth items).map .array
  | 0, .object _ => none
  | depth + 1, .object members => (Written.members? depth members).map ofMembers

/-- The values of items. -/
def Written.items? : Nat → List Written → Option (List Json)
  | _, [] => some []
  | depth, item :: items => do
    let value ← Written.value? depth item
    let values ← Written.items? depth items
    return value :: values

/-- The names and values of members. -/
def Written.members? : Nat → List (List Piece × Written) → Option (List (String × Json))
  | _, [] => some []
  | depth, (name, member) :: members => do
    let name ← text? name
    let value ← Written.value? depth member
    let values ← Written.members? depth members
    return (String.ofList name, value) :: values

end

/-- Arrays and objects may nest 127 deep. -/
def nestingLimit : Nat := 127

/-- The value of a text. -/
def parse? (text : String) : Option Json := do (← Written.read? text).value? nestingLimit

end DocumentQuery.Json
