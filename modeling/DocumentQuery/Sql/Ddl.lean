import DocumentQuery.Sql.Extraction
import DocumentQuery.Table.Column

/-!
# Statements that define tables

* `Path.columnName`: the name of the virtual column for a path;
* `Ddl`: the statements that create tables, columns and indexes;
* `Ddl.documentTable`, `Ddl.virtualColumn`, `Ddl.index`: the statements with
  checked names;
* `Ddl.text`: their text.
-/

namespace DocumentQuery

/-- A segment as a part of a column name, every character that cannot be in it
an underscore. -/
def Path.Segment.namePart : Path.Segment → String
  | .field name => String.ofList (name.toList.map fun c => if c.isAlphanum then c else '_')
  | .index position => toString position.toNat

/-- The name of the virtual column for a path, such as `vc_Address_City`. It is
not the name for this path alone: `$.a.b` and `$.a_b` have the same. -/
def Path.columnName (s : Settings) (path : Path) : Except Error String := do
  let name := s.columnPrefix ++ "_".intercalate (path.segments.map Segment.namePart)
  Sql.checkName name
  return name

/-- A statement that defines a table or a part of one. -/
inductive Ddl
  /-- A table with a key column and a document column. -/
  | createTable (ifNotExists : Bool) (table key document : String)
  /-- A generated column with the value of an expression. -/
  | addColumn (table column : String) (affinity : Affinity) (expression : String)
  | createIndex (unique : Bool) (index table : String) (columns : List String)
  deriving DecidableEq, Repr

namespace Ddl

/-- The columns of a document table, in parentheses. -/
def documentColumns (key document : String) : String :=
  "(" ++ Sql.quoteName key ++ " TEXT PRIMARY KEY, " ++ Sql.quoteName document ++ " TEXT NOT NULL)"

/-- The definition of a generated column. -/
def generatedColumn (column : String) (affinity : Affinity) (expression : String) : String :=
  Sql.quoteName column ++ " " ++ affinity.name ++ " GENERATED ALWAYS AS (" ++ expression ++
    ") VIRTUAL"

/-- The text of a statement. -/
def text : Ddl → String
  | .createTable ifNotExists table key document =>
    "CREATE TABLE " ++ (if ifNotExists then "IF NOT EXISTS " else "") ++ Sql.quoteName table ++
      " " ++ documentColumns key document
  | .addColumn table column affinity expression =>
    "ALTER TABLE " ++ Sql.quoteName table ++ " ADD COLUMN " ++
      generatedColumn column affinity expression
  | .createIndex unique index table columns =>
    "CREATE " ++ (if unique then "UNIQUE " else "") ++ "INDEX IF NOT EXISTS " ++
      Sql.quoteName index ++ " ON " ++ Sql.quoteName table ++ " (" ++
      ", ".intercalate (columns.map Sql.quoteName) ++ ")"

/-- The statement that creates a document table. -/
def documentTable (s : Settings) (table : String) (ifNotExists : Bool) : Except Error Ddl := do
  Sql.checkName table
  return .createTable ifNotExists table s.keyColumn s.documentColumn

/-- The statement that adds a column for a path. -/
def virtualColumn (s : Settings) (table column : String) (path : Path) (affinity : Affinity) :
    Except Error Ddl := do
  Sql.checkName table
  Sql.checkName column
  return .addColumn table column affinity (s.extraction.text path)

/-- The name of an index that is given none. -/
def indexName (table : String) (columns : List String) : String :=
  "ix_" ++ table ++ "_" ++ "_".intercalate columns

/-- The statement that creates an index over columns. -/
def index (table : String) (columns : List String) (name : Option String) (unique : Bool) :
    Except Error Ddl := do
  Sql.checkName table
  columns.forM Sql.checkName
  let name := name.getD (indexName table columns)
  Sql.checkName name
  return .createIndex unique name table columns

end Ddl

end DocumentQuery
