import DocumentQuery.Engine.Call
import DocumentQuery.Table.CreateText

/-!
# A catalog of tables

The part of a database that the statements which define tables work on: each
table with its columns and with the text that created it. Names of tables and
columns are found in any case, but the text of a table by its exact name.

* `Catalog`, `Catalog.Table`: the tables;
* `Catalog.read`, `Catalog.hasColumn`, `Catalog.execute`: what it answers;
* `Catalog.answer`: the reply to a request.
-/

namespace DocumentQuery

/-- A column of a table in a catalog. -/
structure Catalog.Field where
  name : String
  declaredType : String
  isHidden : Bool
  deriving DecidableEq, Repr

/-- A table of a catalog. -/
structure Catalog.Table where
  name : String
  fields : List Catalog.Field
  /-- The statement that would create the table as it is now. -/
  createText : String
  deriving DecidableEq, Repr

/-- The tables of a database. -/
structure Catalog where
  tables : List Catalog.Table
  deriving DecidableEq, Repr

namespace Catalog

/-- A database without tables. -/
def empty : Catalog := ⟨[]⟩

/-- Whether two names are the same to the database. -/
def sameName (a b : String) : Bool := Text.sameIgnoringCase a.toList b.toList

/-- The table of a name. -/
def table? (c : Catalog) (name : String) : Option Table := c.tables.find? (sameName name ·.name)

/-- The columns of a table as they are reported to one who calls it `name`. -/
def Table.columns (t : Table) (name : String) : List Column :=
  t.fields.map fun f =>
    { name := f.name
      declaredType := f.declaredType
      isHidden := f.isHidden
      expression :=
        if f.isHidden && t.name == name then CreateText.expression? t.createText f.name else none }

/-- The columns of a table. -/
def read (c : Catalog) (name : String) : Except Error (List Column) := do
  Sql.checkName name
  match c.table? name with
  | none => .error (.schemaRead name .noSuchTable)
  | some t => return t.columns name

/-- Whether a table has a column of exactly this name. -/
def hasColumn (c : Catalog) (name column : String) : Except Error Bool := do
  Sql.checkName name
  match c.table? name with
  | none => return false
  | some t => return t.fields.any (·.name == column)

/-- The error of a statement that the database refuses. -/
def refuse (reason : String) : Error :=
  .storage (.reported ("error returned from database: (code: 1) " ++ reason))

/-- A text with a definition more before its final parenthesis. -/
def addDefinition (definition text : String) : String :=
  String.ofList (text.toList.dropLast ++ ", ".toList ++ definition.toList ++ [')'])

/-- A table with a generated column more. -/
def Table.add (t : Table) (column : String) (affinity : Affinity) (expression : String) :
    Table where
  name := t.name
  fields := t.fields ++ [⟨column, affinity.name, true⟩]
  createText := addDefinition (Ddl.generatedColumn column affinity expression) t.createText

/-- The catalog with the tables of a name changed. -/
def change (c : Catalog) (name : String) (f : Table → Table) : Catalog :=
  ⟨c.tables.map fun t => if sameName name t.name then f t else t⟩

/-- Executes a statement. -/
def execute (c : Catalog) : Ddl → Except Error Catalog
  | .createTable ifNotExists table key document =>
    match c.table? table with
    | some _ =>
      if ifNotExists then .ok c
      else .error (refuse ("table " ++ Sql.quoteName table ++ " already exists"))
    | none =>
      let created : Table :=
        { name := table
          fields := [⟨key, "TEXT", false⟩, ⟨document, "TEXT", false⟩]
          createText := (Ddl.createTable false table key document).text }
      .ok ⟨c.tables ++ [created]⟩
  | .addColumn table column affinity expression =>
    match c.table? table with
    | none => .error (refuse ("no such table: " ++ table))
    | some t =>
      if t.fields.any (sameName column ·.name) then
        .error (refuse ("duplicate column name: " ++ column))
      else .ok (c.change table (·.add column affinity expression))
  | .createIndex .. => .ok c

/-- The reply to a request. Reads take no time. -/
def answer (c : Catalog) : (request : Request) → request.Reply × Catalog
  | .readSchema table => (Reading.mk 0 (c.read table), c)
  | .hasColumn table column => (c.hasColumn table column, c)
  | .execute statement =>
    match c.execute statement with
    | .ok changed => (Except.ok (ε := Error) (), changed)
    | .error e => (Except.error (α := Unit) e, c)

end Catalog

end DocumentQuery
