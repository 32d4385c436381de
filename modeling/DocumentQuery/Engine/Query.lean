import DocumentQuery.Engine.Call
import DocumentQuery.Sql.SourcePath
import DocumentQuery.Sql.Statement

/-!
# Queries on a table

Filters and projections are compiled against the virtual columns of a table,
which are read from the schema when they are not known.

* `Engine`, `Engine.new`: settings, and the reading of expressions;
* `Engine.columns`: the virtual columns of a table;
* `Engine.clause`, `Engine.column`, `Engine.filtered`, `Engine.projected`:
  what a query on the table compiles to.
-/

namespace DocumentQuery

/-- What compiles queries. -/
structure Engine where
  settings : Settings
  /-- The path that the expression of a generated column exposes. -/
  sourcePath? : String → Option Path

namespace Engine

/-- The engine with these settings, which have to be usable. It recognises the
extraction calls that it writes itself. -/
def new (s : Settings) : Except Error Engine := do
  s.check
  return ⟨s, s.extraction.sourcePath?⟩

/-- The virtual columns of a table: those known, or else those in the schema. -/
def columns (e : Engine) (table : String) : Task ColumnMap := fun cache =>
  match cache.get? table with
  | some columns => .done (.ok columns) cache
  | none =>
    .ask (.readSchema table) cache fun reading now =>
      match Reading.columns? reading table e.settings.loadTimeout with
      | .error fault => .done (.error fault) now
      | .ok reported =>
        let loaded := ColumnMap.ofReported e.sourcePath? reported
        let (columns, next) := now.install (cache.load table) loaded
        .done (.ok columns) next

/-- The clause of a filter on a table. -/
def clause [RegexLibrary] (e : Engine) (table : String) (filter : Expr) : Task Clause := do
  Task.lift (Sql.checkName table)
  let columns ← e.columns table
  Task.lift (Clause.ofExpr? e.settings columns filter)

/-- Where a query on a table reads a path from. -/
def column (e : Engine) (table : String) (path : Path) : Task ColumnRef := do
  Task.lift (Sql.checkName table)
  let columns ← e.columns table
  return columns.resolve e.settings path

/-- The statement for the documents of a table that satisfy a filter. -/
def filtered [RegexLibrary] (e : Engine) (table : String) (filter : Expr) : Task Statement := do
  Task.lift (Sql.checkName table)
  let columns ← e.columns table
  let clause ← Task.lift (Clause.ofExpr? e.settings columns filter)
  Task.lift (Statement.filtered e.settings table clause)

/-- The statement for fields of the documents of a table, of all or of those
that satisfy a filter. -/
def projected [RegexLibrary] (e : Engine) (table : String) (projection : Expr)
    (filter : Option Expr) : Task Statement := do
  Task.lift (Sql.checkName table)
  let projection ← Task.lift (Projection.ofExpr? projection)
  let columns ← e.columns table
  let clause ← Task.lift (filter.mapM (Clause.ofExpr? e.settings columns))
  Task.lift (Statement.projected e.settings columns table projection clause)

end Engine

end DocumentQuery
