import DocumentQuery.Path.Printer
import DocumentQuery.Text.Basic

/-!
# Columns

* `Affinity`: the types that columns are declared with, and what other
  declared types count as;
* `Column`: a column as a store reports it;
* `VirtualColumn`: a generated column that exposes one path of the document.
-/

namespace DocumentQuery

/-- The type of a column. -/
inductive Affinity
  | integer
  | real
  | text
  | numeric
  | blob
  deriving DecidableEq, Repr, Inhabited

namespace Affinity

/-- The name of a type in query text. -/
def name : Affinity → String
  | .integer => "INTEGER"
  | .real => "REAL"
  | .text => "TEXT"
  | .numeric => "NUMERIC"
  | .blob => "BLOB"

/-- What a declared type counts as: the first row of the rules with a word
that occurs in it, in any case. No type at all counts as a blob. -/
def ofDeclared (declared : String) : Affinity :=
  let upper := declared.toList.map Char.toUpper
  let mentions (words : List String) := words.any fun word => Text.occursIn word.toList upper
  if mentions ["INT"] then .integer
  else if mentions ["CHAR", "CLOB", "TEXT"] then .text
  else if mentions ["BLOB"] || (Text.trim upper).isEmpty then .blob
  else if mentions ["REAL", "FLOA", "DOUB"] then .real
  else .numeric

end Affinity

/-- A column as a store reports it. -/
structure Column where
  name : String
  declaredType : String
  /-- A generated column, which is no part of the stored row. -/
  isHidden : Bool
  /-- The text of the expression of a generated column. -/
  expression : Option String
  deriving DecidableEq, Repr, Inhabited

/-- A generated column that exposes one path of the document. -/
structure VirtualColumn where
  path : Path
  name : String
  affinity : Affinity
  deriving DecidableEq, Repr, Inhabited

end DocumentQuery
