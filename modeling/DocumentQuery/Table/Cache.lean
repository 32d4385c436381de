import DocumentQuery.Keyed
import DocumentQuery.Table.ColumnMap

/-!
# The cache of virtual columns

What is known of the tables, read from the schema of each on its first use.
A load under way does not hold up other work on the cache, so when it is done
it may be out of date: its result is kept only if nothing was dropped since it
began, and never over what was registered in the meantime.

* `Cache`: the known tables, and how often something was dropped;
* `Cache.get?`, `Cache.tableNames`: what is known;
* `Cache.register`, `Cache.invalidate`, `Cache.clear`: changes by the caller;
* `Load`, `Cache.load`, `Cache.install`: a load and its end;
* `Reading`: what a store answers to a read.
-/

namespace DocumentQuery

/-- What is known of the tables. -/
structure Cache where
  /-- The columns of each known table, by its name. -/
  tables : List (String × ColumnMap)
  /-- How often a table or all of them were dropped. -/
  drops : UInt64
  deriving DecidableEq

/-- A load under way: its table, and the drops counted when it began. -/
structure Load where
  table : String
  drops : UInt64
  deriving DecidableEq, Repr

/-- What a store answers to a read of a schema, and how long it took in milliseconds. -/
structure Reading where
  elapsed : Nat
  answer : Except Error (List Column)

namespace Cache

/-- Nothing is known. -/
def empty : Cache := ⟨[], 0⟩

instance : Inhabited Cache := ⟨empty⟩

/-- The columns of a table, if they are known. -/
def get? (c : Cache) (table : String) : Option ColumnMap := c.tables.lookup table

/-- The known tables in ascending order. -/
def tableNames (c : Cache) : List String := Keyed.names c.tables

/-- The cache with the columns of a table known. -/
def put (c : Cache) (table : String) (columns : ColumnMap) : Cache :=
  { c with tables := Keyed.insert table columns c.tables }

/-- The cache with one more column of a table, which makes the table known. -/
def register (c : Cache) (table : String) (column : VirtualColumn) : Except Error Cache :=
  (((c.get? table).getD .empty).register table column).map (c.put table)

/-- The cache without what is known of a table. -/
def invalidate (c : Cache) (table : String) : Cache :=
  ⟨Keyed.erase table c.tables, c.drops + 1⟩

/-- The cache without anything known. -/
def clear (c : Cache) : Cache := ⟨[], c.drops + 1⟩

/-- The load that begins now. -/
def load (c : Cache) (table : String) : Load := ⟨table, c.drops⟩

/-- The end of a load that found `loaded`: what its caller gets, and the cache.
What is known already stays as it is. -/
def install (c : Cache) (load : Load) (loaded : ColumnMap) : ColumnMap × Cache :=
  if c.drops ≠ load.drops then (loaded, c)
  else
    let columns := match c.get? load.table with
      | some current => loaded.overlay current
      | none => loaded
    (columns, c.put load.table columns)

end Cache

/-- The columns that a read gives. An answer that comes after the limit is no
answer, and whatever error the store has, the read of the schema has failed. -/
def Reading.columns? (r : Reading) (table : String) (limit : Option Nat) :
    Except Error (List Column) :=
  match limit.filter (· < r.elapsed), r.answer with
  | some limit, _ => .error (.schemaRead table (.timedOut limit))
  | none, .ok columns => .ok columns
  | none, .error (.schemaRead table cause) => .error (.schemaRead table cause)
  | none, .error e => .error (.schemaRead table (.reported e.message))

end DocumentQuery
