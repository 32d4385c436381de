import DocumentQuery.Engine.Query

/-!
# Provisioning

Document tables and virtual columns are created where they are missing. The
name of a virtual column does not tell its path, so a column that is there
already is used only if the schema says that it exposes the requested path.

* `ColumnSpec`: a requested virtual column;
* `Engine.ensureTable`: a document table that exists afterwards;
* `Engine.ensureColumn`: a virtual column that exists and is known afterwards.
-/

namespace DocumentQuery

/-- A requested virtual column. -/
structure ColumnSpec where
  path : Path
  affinity : Affinity
  /-- Whether there has to be an index over the column. -/
  indexed : Bool
  deriving DecidableEq, Repr, Inhabited

/-- The column of this name that a specification requests. -/
def ColumnSpec.column (spec : ColumnSpec) (name : String) : VirtualColumn :=
  ⟨spec.path, name, spec.affinity⟩

/-- Refuses a specification whose column name is taken: by a column for the path
`served`, or by one that is present but exposes no path that is known. -/
def ColumnSpec.checkFree (spec : ColumnSpec) (table name : String) (served : Option Path)
    (present : Bool) : Except Error Unit :=
  let taken (purpose : String) : Except Error Unit :=
    .error (.conflict table spec.path.text (name ++ " serving " ++ purpose)
      (name ++ " " ++ spec.affinity.name))
  match served with
  | some path => if path = spec.path then .ok () else taken path.text
  | none => if present then taken "an unrecognized expression" else .ok ()

namespace Engine

/-- Creates a document table unless it exists. -/
def ensureTable (e : Engine) (table : String) : Task Unit := do
  let statement ← Task.lift (Ddl.documentTable e.settings table true)
  Task.execute statement

/-- The path that a column of this name exposes as far as is known. -/
def servedPath (e : Engine) (table name : String) : Task (Option Path) := do
  let columns ← e.columns table
  return (columns.named? name).map (·.path)

/-- The path that a column exposes, after a look at the schema if the column is
present but what is known does not have it. -/
def freshPath (e : Engine) (table name : String) (served : Option Path) (present : Bool) :
    Task (Option Path) := do
  if present && served.isNone then
    Task.modify (·.invalidate table)
    e.servedPath table name
  else return served

/-- Adds the column of a specification, and an index over it if there has to be
one. -/
def create (e : Engine) (table name : String) (spec : ColumnSpec) (present : Bool) :
    Task Unit := do
  if !present then
    let statement ← Task.lift (Ddl.virtualColumn e.settings table name spec.path spec.affinity)
    Task.execute statement
  if spec.indexed then
    let statement ← Task.lift (Ddl.index table [name] none false)
    Task.execute statement

/-- Adds the virtual column of a specification unless it exists, and makes it known. -/
def ensureColumn (e : Engine) (table : String) (spec : ColumnSpec) : Task VirtualColumn := do
  Task.lift (Sql.checkName table)
  let name ← Task.lift (spec.path.columnName e.settings)
  let served ← e.servedPath table name
  let present ← Task.hasColumn table name
  let served ← e.freshPath table name served present
  Task.lift (spec.checkFree table name served present)
  e.create table name spec present
  Task.tryModify (·.register table (spec.column name))
  return spec.column name

end Engine

end DocumentQuery
