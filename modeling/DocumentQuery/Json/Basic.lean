import DocumentQuery.Keyed

/-!
# JSON values

The values that documents and captured variables hold. The members of an
object are kept in ascending order of their names, each name once, so that
two objects with the same members are the same value.

* `Json`, `Json.Number`: the values;
* `Json.member?`, `Json.element?`: navigation by a name and by a position;
* `Json.ofMembers`: the object with given members;
* `Json.same`: equality, where floats compare as numbers.
-/

namespace DocumentQuery

/-- Integers that fit 64 bits are kept apart from floats. -/
inductive Json.Number
  | natural (n : UInt64)
  | negative (i : Int64)
  | float (x : Float)
  deriving DecidableEq, Repr

/-- A JSON value. -/
inductive Json
  | null
  | bool (b : Bool)
  | number (n : Json.Number)
  | string (s : String)
  | array (items : List Json)
  | object (members : List (String × Json))
  deriving Repr, Inhabited

namespace Json

/-- The value of the member called `name`; only objects have members. -/
def member? (name : String) : Json → Option Json
  | .object members => members.lookup name
  | _ => none

/-- The value at a position; only arrays have positions. -/
def element? (position : Nat) : Json → Option Json
  | .array items => items[position]?
  | _ => none

/-- The object with the members listed, of which the last of each name counts. -/
def ofMembers (members : List (String × Json)) : Json :=
  .object (members.foldl (fun kept m => Keyed.insert m.1 m.2 kept) [])

/-- Equality of numbers of one kind: an integer is never the same as a float. -/
def Number.same : Number → Number → Bool
  | .natural a, .natural b => a == b
  | .negative a, .negative b => a == b
  | .float a, .float b => a == b
  | _, _ => false

mutual

/-- Equality of values. It differs from identity at the floats alone, where
the two zeros are the same and a value that is no number is not even itself. -/
def same : Json → Json → Bool
  | .null, .null => true
  | .bool a, .bool b => a == b
  | .number a, .number b => a.same b
  | .string a, .string b => a == b
  | .array as, .array bs => sameItems as bs
  | .object as, .object bs => sameMembers as bs
  | _, _ => false

/-- Equality of lists of values, position by position. -/
def sameItems : List Json → List Json → Bool
  | [], [] => true
  | a :: as, b :: bs => same a b && sameItems as bs
  | _, _ => false

/-- Equality of lists of members, position by position. -/
def sameMembers : List (String × Json) → List (String × Json) → Bool
  | [], [] => true
  | (m, a) :: as, (n, b) :: bs => m == n && same a b && sameMembers as bs
  | _, _ => false

end

end Json

end DocumentQuery
