import DocumentQuery.Sql.Name

/-!
# Settings

The names that every document table shares and the spellings that compiled
text uses.

* `Settings`: the settings, with their defaults;
* `Settings.check`: whether every name in them can be used in query text.
-/

namespace DocumentQuery

/-- What the application decides once for all its tables. -/
structure Settings where
  /-- The column that holds the document. -/
  documentColumn : String := "data"
  /-- The column that holds the key of the document. -/
  keyColumn : String := "id"
  /-- The function that reads a path from a document. -/
  extractFunction : String := "json_extract"
  /-- What the names of parameters start with, before their number. -/
  parameterPrefix : String := "p"
  /-- What the names of virtual columns start with. -/
  columnPrefix : String := "vc_"
  /-- The longest a read of a schema may take, in milliseconds. -/
  loadTimeout : Option Nat := some 30000
  deriving DecidableEq, Repr, Inhabited

/-- Refuses settings with a name that cannot be used; the first such name decides. -/
def Settings.check (s : Settings) : Except Error Unit := do
  Sql.checkName s.documentColumn
  Sql.checkName s.keyColumn
  Sql.checkName s.extractFunction
  Sql.checkName s.parameterPrefix
  Sql.checkName s.columnPrefix

end DocumentQuery
