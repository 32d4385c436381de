import DocumentQuery.Decimal
import DocumentQuery.Json.Basic

/-!
# Writing a JSON value

Without spaces, members in the order of the object, and an escape for nothing
but quotes, backslashes and control characters.

* `Json.text`: the text of a value;
* `Json.numberLayout`: how its doubles are written.
-/

namespace DocumentQuery.Json

/-- Doubles are positional from a hundred-thousandth to below `10 ^ 16`, always
show that they are no integers, and of two equally near decimals take the
even one. -/
def numberLayout : Decimal.Layout where
  tie := .toEven
  isPositional e := -5 ≤ e && e ≤ 15
  hasFraction := true

/-- The text of a number. -/
def Number.text : Number → String
  | .natural n => toString n.toNat
  | .negative i => toString i.toInt
  | .float x => Decimal.write numberLayout x

/-- A character inside a string. -/
def escape (c : Char) : List Char :=
  if c = '"' || c = '\\' then ['\\', c]
  else if c = '\x08' then ['\\', 'b']
  else if c = '\x0c' then ['\\', 'f']
  else if c = '\n' then ['\\', 'n']
  else if c = '\r' then ['\\', 'r']
  else if c = '\t' then ['\\', 't']
  else if c.toNat < 0x20 then
    ['\\', 'u', '0', '0', Nat.digitChar (c.toNat / 16), Nat.digitChar (c.toNat % 16)]
  else [c]

/-- A string with its quotes. -/
def quoted (s : String) : String := "\"" ++ String.ofList (s.toList.flatMap escape) ++ "\""

mutual

/-- The text of a value. -/
def text : Json → String
  | .null => "null"
  | .bool b => if b then "true" else "false"
  | .number n => n.text
  | .string s => quoted s
  | .array items => "[" ++ ",".intercalate (itemTexts items) ++ "]"
  | .object members => "\x7b" ++ ",".intercalate (memberTexts members) ++ "\x7d"

/-- The texts of items. -/
def itemTexts : List Json → List String
  | [] => []
  | item :: items => text item :: itemTexts items

/-- The texts of members, each with its name. -/
def memberTexts : List (String × Json) → List String
  | [] => []
  | (name, value) :: members => (quoted name ++ ":" ++ text value) :: memberTexts members

end

end DocumentQuery.Json
