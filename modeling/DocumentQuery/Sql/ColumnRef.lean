import DocumentQuery.Sql.Extraction
import DocumentQuery.Table.ColumnMap

/-!
# Column references

Where query text reads the value of a path from: a virtual column that exposes
exactly this path if there is one, and an extraction call otherwise.

* `ColumnRef`, `ColumnRef.text`: the two ways, and their text;
* `ColumnMap.resolve`: the way for a path.
-/

namespace DocumentQuery

/-- Where the value of a path is read from. -/
inductive ColumnRef
  | virtual (column : String)
  | extract (call : Extraction) (path : Path)
  deriving DecidableEq, Repr, Inhabited

/-- Whether a reference is to a virtual column. -/
def ColumnRef.isVirtual : ColumnRef → Bool
  | .virtual _ => true
  | .extract .. => false

/-- A reference in query text. -/
def ColumnRef.text : ColumnRef → String
  | .virtual column => Sql.quoteName column
  | .extract call path => call.text path

/-- The reference that a path has on a table with these virtual columns. The
type of the column has no part in it. -/
def ColumnMap.resolve (m : ColumnMap) (s : Settings) (path : Path) : ColumnRef :=
  match m.get? path with
  | some c => .virtual c.name
  | none => .extract s.extraction path

end DocumentQuery
