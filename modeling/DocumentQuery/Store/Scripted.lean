import DocumentQuery.Engine.Call

/-!
# A store that follows a script

A store in memory for rehearsals: its tables and what goes wrong with it are
set from outside, and it keeps a record of what it was asked.

* `Scripted`: the tables, the faults and the record;
* `Scripted.read`, `Scripted.hasColumn`, `Scripted.execute`: what it answers;
* `Scripted.answer`: the reply to a request.
-/

namespace DocumentQuery

/-- A store in memory. -/
structure Scripted where
  /-- The columns of each table, by its name. -/
  tables : List (String × List Column)
  /-- How long a read of a schema takes, in milliseconds. -/
  delay : Nat
  /-- The error of every question about the schema, if there is one. -/
  schemaFault : Option Error
  /-- The error of every statement, if there is one. -/
  executeFault : Option Error
  /-- How many reads of a schema have begun. -/
  loads : Nat
  /-- The texts of the executed statements. -/
  executed : List String

namespace Scripted

/-- A store with tables, where nothing goes wrong. -/
def ofTables (tables : List (String × List Column)) : Scripted :=
  ⟨tables.foldl (fun kept t => Keyed.insert t.1 t.2 kept) [], 0, none, none, 0, []⟩

/-- What a read of a schema finds. -/
def read (s : Scripted) (table : String) : Except Error (List Column) :=
  match s.schemaFault, s.tables.lookup table with
  | some fault, _ => .error fault
  | none, some columns => .ok columns
  | none, none => .error (.schemaRead table .noSuchTable)

/-- Whether a table has a column of a name. -/
def hasColumn (s : Scripted) (table column : String) : Except Error Bool :=
  match s.schemaFault with
  | some fault => .error fault
  | none => .ok (((s.tables.lookup table).getD []).any (·.name == column))

/-- The effect of a statement on the tables. -/
def define (s : Scripted) : Ddl → Except Error Scripted
  | .createTable _ table key document =>
    if (s.tables.lookup table).isSome then .ok s
    else
      let stored (name : String) : Column := ⟨name, "TEXT", false, none⟩
      .ok { s with tables := Keyed.insert table [stored key, stored document] s.tables }
  | .addColumn table column affinity expression =>
    match s.tables.lookup table with
    | none => .error (.storage (.reported ("no such table: " ++ table)))
    | some columns =>
      let added : Column := ⟨column, affinity.name, true, some expression⟩
      .ok { s with tables := Keyed.insert table (columns ++ [added]) s.tables }
  | .createIndex .. => .ok s

/-- Executes a statement, which is recorded even if it fails. -/
def execute (s : Scripted) (statement : Ddl) : Except Error Unit × Scripted :=
  match s.executeFault with
  | some fault => (.error fault, s)
  | none =>
    let recorded := { s with executed := s.executed ++ [statement.text] }
    match recorded.define statement with
    | .ok changed => (.ok (), changed)
    | .error e => (.error e, recorded)

/-- The store with one more read begun. -/
def beginRead (s : Scripted) : Scripted := { s with loads := s.loads + 1 }

/-- The reply to a request. -/
def answer (s : Scripted) : (request : Request) → request.Reply × Scripted
  | .readSchema table => (Reading.mk s.delay (s.read table), s.beginRead)
  | .hasColumn table column => (s.hasColumn table column, s)
  | .execute statement => s.execute statement

end Scripted

end DocumentQuery
