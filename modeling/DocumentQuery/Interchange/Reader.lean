import DocumentQuery.Engine.Provision
import DocumentQuery.Json.Numeral

/-!
# Reading descriptions of columns

Paths, columns and specifications are exchanged as JSON. A record is an object
with a member for each field, in any order and with other members between
them, or an array of the fields in order. A choice is an object whose only
member names the alternative.

Nothing is checked but the form: a path that is read may hold any member names.

* `Interchange.record`: the fields of a record;
* `readPath`, `readAffinity`, `readColumn`, `readVirtualColumn`,
  `readColumnSpec`: the descriptions.
-/

namespace DocumentQuery.Interchange

open Json (Written Piece)

/-- The characters of a string. -/
def readString : Written → Option String
  | .string pieces => (Json.text? pieces).map String.ofList
  | _ => none

/-- A truth value. -/
def readBool : Written → Option Bool
  | .bool b => some b
  | _ => none

/-- An unsigned 64-bit integer. -/
def readNatural : Written → Option UInt64
  | .number numeral =>
    match numeral.number? with
    | some (.natural n) => some n
    | _ => none
  | _ => none

/-- A value that may be absent: null, or written as itself. -/
def readOptional {α : Type} (read : Written → Option α) : Written → Option (Option α)
  | .null => some none
  | written => (read written).map some

/-- The items of a list. -/
def readList {α : Type} (read : Written → Option α) : Written → Option (List α)
  | .array items => items.mapM read
  | _ => none

/-- The members that a record may have, by name; each may be there once. -/
def fieldMembers (fields : List String) :
    List (List Piece × Written) → Option (List (String × Written))
  | [] => some []
  | (pieces, value) :: members => do
    let name := String.ofList (← Json.text? pieces)
    let rest ← fieldMembers fields members
    if !fields.contains name then return rest
    else if (rest.lookup name).isSome then none
    else return (name, value) :: rest

/-- The fields of a record in order. An absent field is null if it may be. -/
def record (fields : List (String × Bool)) : Written → Option (List Written)
  | .array items => if items.length = fields.length then some items else none
  | .object members => do
    let found ← fieldMembers (fields.map (·.1)) members
    fields.mapM fun (name, optional) =>
      match found.lookup name with
      | some value => some value
      | none => if optional then some .null else none
  | _ => none

/-- The alternative of a choice, by name, and what it holds. -/
def alternative : Written → Option (String × Written)
  | .object [(pieces, value)] => (Json.text? pieces).map fun cs => (String.ofList cs, value)
  | _ => none

/-- A step of a path. -/
def readSegment (written : Written) : Option Path.Segment := do
  match ← alternative written with
  | ("Field", value) => return .field (← readString value)
  | ("Index", value) => return .index (← readNatural value)
  | _ => none

/-- A path. -/
def readPath (written : Written) : Option Path := do
  let [segments] ← record [("segments", false)] written | none
  return ⟨← readList readSegment segments⟩

/-- The name of a type in descriptions. -/
def affinityName : Affinity → String
  | .integer => "Integer"
  | .real => "Real"
  | .text => "Text"
  | .numeric => "Numeric"
  | .blob => "Blob"

/-- The type of a name. -/
def affinityNamed? (name : String) : Option Affinity :=
  [Affinity.integer, .real, .text, .numeric, .blob].find? (affinityName · == name)

/-- A type: its name alone, or an alternative that holds nothing. -/
def readAffinity (written : Written) : Option Affinity :=
  match written with
  | .string _ => (readString written).bind affinityNamed?
  | _ =>
    match alternative written with
    | some (name, .null) => affinityNamed? name
    | _ => none

/-- A column as a store reports it. -/
def readColumn (written : Written) : Option Column := do
  let [name, declaredType, isHidden, expression] ←
    record [("name", false), ("declared_type", false), ("is_hidden", false),
      ("generation_expression", true)] written | none
  return ⟨← readString name, ← readString declaredType, ← readBool isHidden,
    ← readOptional readString expression⟩

/-- A virtual column. -/
def readVirtualColumn (written : Written) : Option VirtualColumn := do
  let [path, name, affinity] ←
    record [("path", false), ("column_name", false), ("column_type", false)] written | none
  return ⟨← readPath path, ← readString name, ← readAffinity affinity⟩

/-- A requested virtual column. -/
def readColumnSpec (written : Written) : Option ColumnSpec := do
  let [path, affinity, indexed] ←
    record [("path", false), ("column_type", false), ("indexed", false)] written | none
  return ⟨← readPath path, ← readAffinity affinity, ← readBool indexed⟩

end DocumentQuery.Interchange
