import DocumentQuery.Filter.Clause
import DocumentQuery.Projection

/-!
# Select statements

* `Statement`: a text and the values of its placeholders;
* `Statement.filtered`: the documents and keys that satisfy a clause;
* `Statement.projected`: the fields of a projection, of all rows or of those
  that satisfy a clause;
* `Statement.select`: either of them from expressions.
-/

namespace DocumentQuery

/-- A statement. -/
structure Statement where
  sql : String
  parameters : Parameters
  deriving DecidableEq, Repr, Inhabited

namespace Statement

/-- The text that reads a field under its name. -/
def fieldText (s : Settings) (columns : ColumnMap) (field : String × Path) : String :=
  (columns.resolve s field.2).text ++ " AS " ++ Sql.quoteName field.1

/-- `SELECT "id", "data" FROM "table" WHERE …` -/
def filtered (s : Settings) (table : String) (clause : Clause) : Except Error Statement := do
  Sql.checkName table
  return {
    sql := "SELECT " ++ Sql.quoteName s.keyColumn ++ ", " ++ Sql.quoteName s.documentColumn ++
      " FROM " ++ Sql.quoteName table ++ " WHERE " ++ clause.text
    parameters := clause.parameters }

/-- `SELECT … AS "field", … FROM "table"`, with `WHERE …` if there is a clause. -/
def projected (s : Settings) (columns : ColumnMap) (table : String) (projection : Projection)
    (clause : Option Clause) : Except Error Statement := do
  Sql.checkName table
  if projection.fields.isEmpty then .error (.expression .noFields)
  let select := "SELECT " ++ ", ".intercalate (projection.fields.map (fieldText s columns)) ++
    " FROM " ++ Sql.quoteName table
  match clause with
  | none => return ⟨select, .empty⟩
  | some clause => return ⟨select ++ " WHERE " ++ clause.text, clause.parameters⟩

/-- The statement for a filter and a projection, of which either may be missing. -/
def select [RegexLibrary] (s : Settings) (columns : ColumnMap) (table : String)
    (projection filter : Option Expr) : Except Error Statement := do
  let clause ← filter.mapM (Clause.ofExpr? s columns)
  match projection, clause with
  | some projection, clause => projected s columns table (← Projection.ofExpr? projection) clause
  | none, some clause => filtered s table clause
  | none, none => projected s columns table ⟨[]⟩ none

end Statement

end DocumentQuery
