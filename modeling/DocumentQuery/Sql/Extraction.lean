import DocumentQuery.Path.Printer
import DocumentQuery.Settings

/-!
# Extraction calls

The expression that reads a path from the document column of a row:
`json_extract("data", '$.a')`.

* `Extraction`: the function and the column of such calls;
* `Extraction.text`: the call for a path.
-/

namespace DocumentQuery

/-- The function and the column of extraction calls. -/
structure Extraction where
  function : String
  column : String
  deriving DecidableEq, Repr, Inhabited

/-- The extraction calls that compiled text uses. -/
def Settings.extraction (s : Settings) : Extraction := ⟨s.extractFunction, s.documentColumn⟩

/-- The call that reads a path. -/
def Extraction.text (e : Extraction) (path : Path) : String :=
  e.function ++ "(" ++ Sql.quoteName e.column ++ ", " ++ path.literal ++ ")"

end DocumentQuery
