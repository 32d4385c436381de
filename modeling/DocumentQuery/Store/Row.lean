import DocumentQuery.Error
import DocumentQuery.Json.Reader
import DocumentQuery.Sql.Placeholder
import DocumentQuery.Text.Utf8

/-!
# Rows

A row is a JSON object with a member for each column.

* `Row.Item`, `Row.select`: the row of a statement that selects parameters
  and blobs;
* `Row.document`: the document in a column of a row.
-/

namespace DocumentQuery

/-- What a statement selects: the value of a parameter or a blob. -/
inductive Row.Item
  | parameter (name : String)
  | blob (bytes : List UInt8)
  deriving DecidableEq, Repr

namespace Row

/-- An integer as a JSON number. -/
def ofInteger (i : Int64) : Json :=
  .number (if 0 ≤ i.toInt then .natural (UInt64.ofNat i.toInt.toNat) else .negative i)

/-- An argument as it comes back from a database, which has no truth values and
cannot return a double that JSON cannot write. -/
def ofArgument : Sql.Argument → Json
  | .null => .null
  | .integer i => ofInteger i
  | .real x => if x.isFinite then .number (.float x) else .null
  | .text s => .string s
  | .flag b => ofInteger (if b then 1 else 0)

/-- The value that an item selects. A database takes null for an argument that it was not
given. -/
def Item.value (p : Parameters) : Item → Except Error Json
  | .parameter name =>
    match p.position? name with
    | some position => .ok (ofArgument ((Sql.arguments p)[position]?.getD .null))
    | none => .error (.storage (.unboundParameter name))
  | .blob bytes => .ok (.string (Text.Utf8.decode bytes))

/-- The row of items with names; of items with the same name the last counts. -/
def select (p : Parameters) (items : List (Item × String)) : Except Error Json := do
  let members ← items.mapM fun item => return (item.2, ← item.1.value p)
  return Json.ofMembers members

/-- The document in a column: its value if that is no string, and otherwise the
value that the string writes. -/
def document (row : Json) (column : String) : Except Error Json :=
  match row.member? column with
  | none => .error (.storage (.noColumn column))
  | some (.string text) =>
    match Json.parse? text with
    | some json => .ok json
    | none => .error (.storage (.notJson column))
  | some json => .ok json

end Row

end DocumentQuery
