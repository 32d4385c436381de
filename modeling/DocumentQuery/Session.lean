import DocumentQuery.Engine.Provision
import DocumentQuery.Regex.Standard
import DocumentQuery.Sql.Placeholder
import DocumentQuery.Store.Catalog
import DocumentQuery.Store.Scripted

/-!
# Sessions

An engine at work over one store, step by step. Loads of a schema can be held
up at the store and finished later, so that other steps come between.

* `Session`, `Session.Store`: the engine, its cache and the store;
* `Session.Step`, `Session.Outcome`: what can be done and what comes of it;
* `Session.step`: the effect of a step;
* `Session.Entry`, `Session.record`: the account of a step.
-/

namespace DocumentQuery

namespace Session

/-- The stores that a session can work over. -/
inductive Store
  | scripted (s : Scripted)
  | catalog (c : Catalog)

/-- The reply of a store to a request. -/
def Store.answer : Store → (request : Request) → request.Reply × Store
  | .scripted s, request => ((s.answer request).1, .scripted (s.answer request).2)
  | .catalog c, request => ((c.answer request).1, .catalog (c.answer request).2)

/-- A store whose script is changed; a catalog has none. -/
def Store.script (f : Scripted → Scripted) : Store → Store
  | .scripted s => .scripted (f s)
  | .catalog c => .catalog c

/-- What a read of a schema finds that is not held up. -/
def Store.read : Store → String → Except Error (List Column)
  | .scripted s, table => s.read table
  | .catalog c, table => c.read table

end Session

/-- An engine at work over a store. -/
structure Session where
  engine : Engine
  cache : Cache
  store : Session.Store
  /-- Loads held up at the store: their table, and how they go on. -/
  parked : List (String × String × (Reading → Cache → Call ColumnMap))

namespace Session

/-- What can be done in a session. -/
inductive Step
  | readColumns (table : String)
  | hasColumn (table column : String)
  /-- A statement by its text, with the values of its placeholders. -/
  | statement (sql : String) (parameters : Parameters)
  | clause (table : String) (filter : Expr)
  | projection (e : Expr)
  | column (table : String) (path : Path)
  | filtered (table : String) (filter : Expr)
  | projected (table : String) (projection : Expr) (filter : Option Expr)
  | columns (table : String)
  | known (table : String)
  | register (table : String) (column : VirtualColumn)
  | invalidate (table : String)
  | clear
  | startLoad (id table : String)
  | finishLoad (id : String)
  | cancelLoad (id : String)
  | ensureTable (table : String)
  | ensureColumn (table : String) (spec : ColumnSpec)
  | setTable (table : String) (columns : List Column)
  | dropTable (table : String)
  | setDelay (ms : Nat)
  | failSchema (fault : Option Error)
  | failExecute (fault : Option Error)

/-- What comes of a step. -/
inductive Outcome
  | nothing
  /-- A load is held up. -/
  | pending
  | reported (columns : List Column)
  | found (b : Bool)
  | clause (c : Clause)
  | projection (p : Projection)
  | column (c : ColumnRef)
  | statement (s : Statement)
  | columns (m : ColumnMap)
  | virtualColumn (c : VirtualColumn)

/-- The session after a computation that nothing interrupts, and what comes of it. -/
def perform {α : Type} (s : Session) (task : Task α) (outcome : α → Outcome) :
    Except Error Outcome × Session :=
  let (result, cache, store) := (task s.cache).run Store.answer s.store
  (result.map outcome, { s with cache := cache, store := store })

/-- A change of what the store does. -/
def script (s : Session) (f : Scripted → Scripted) : Except Error Outcome × Session :=
  (.ok .nothing, { s with store := s.store.script f })

/-- Begins to load the columns of a table and leaves the read of the schema held
up. If they are known, there is no load. -/
def startLoad (s : Session) (id table : String) : Except Error Outcome × Session :=
  match s.engine.columns table s.cache with
  | .done result cache => (result.map .columns, { s with cache := cache })
  | .ask (.readSchema asked) cache resume =>
    (.ok .pending,
      { s with
        cache := cache
        store := s.store.script Scripted.beginRead
        parked := (id, asked, resume) :: s.parked })
  | .ask _ cache _ => (.ok .pending, { s with cache := cache })

/-- Lets a load go on with the schema as it is now. -/
def finishLoad (s : Session) (id : String) : Except Error Outcome × Session :=
  match s.parked.lookup id with
  | none => (.ok .nothing, s)
  | some (table, resume) =>
    let rest := { s with parked := s.parked.filter (·.1 != id) }
    rest.perform (resume ⟨0, s.store.read table⟩) .columns

/-- Reads the schema of a table past the engine. -/
def readColumns (s : Session) (table : String) : Except Error Outcome × Session :=
  let (reading, store) := s.store.answer (.readSchema table)
  (Except.map .reported (Reading.answer reading), { s with store := store })

/-- The effect of a step, and what comes of it. -/
def step (s : Session) : Step → Except Error Outcome × Session
  | .readColumns table => s.readColumns table
  | .hasColumn table column => s.perform (Task.hasColumn table column) .found
  | .statement sql parameters =>
    ((Sql.numberPlaceholders sql parameters).map fun _ => .nothing, s)
  | .clause table filter => s.perform (s.engine.clause table filter) .clause
  | .projection e => ((Projection.ofExpr? e).map .projection, s)
  | .column table path => s.perform (s.engine.column table path) .column
  | .filtered table filter => s.perform (s.engine.filtered table filter) .statement
  | .projected table projection filter =>
    s.perform (s.engine.projected table projection filter) .statement
  | .columns table => s.perform (s.engine.columns table) .columns
  | .known table => (.ok ((s.cache.get? table).elim .nothing .columns), s)
  | .register table column =>
    s.perform (Task.tryModify (·.register table column)) fun _ => .nothing
  | .invalidate table => s.perform (Task.modify (·.invalidate table)) fun _ => .nothing
  | .clear => s.perform (Task.modify Cache.clear) fun _ => .nothing
  | .startLoad id table => s.startLoad id table
  | .finishLoad id => s.finishLoad id
  | .cancelLoad id => (.ok .nothing, { s with parked := s.parked.filter (·.1 != id) })
  | .ensureTable table => s.perform (s.engine.ensureTable table) fun _ => .nothing
  | .ensureColumn table spec => s.perform (s.engine.ensureColumn table spec) .virtualColumn
  | .setTable table columns =>
    s.script fun store => { store with tables := Keyed.insert table columns store.tables }
  | .dropTable table =>
    s.script fun store => { store with tables := Keyed.erase table store.tables }
  | .setDelay ms => s.script fun store => { store with delay := ms }
  | .failSchema fault => s.script fun store => { store with schemaFault := fault }
  | .failExecute fault => s.script fun store => { store with executeFault := fault }

/-! ## The account of a session -/

/-- The account of a step: what came of it, the tables known after it, and, over a
scripted store, the reads so far and the statements executed in this step. -/
structure Entry where
  result : Except Error Outcome
  known : List String
  script : Option (Nat × List String)

/-- The session after a step, and the account of the step. -/
def record (s : Session) (step : Step) : Entry × Session :=
  let forgetful := s.store.script fun store => { store with executed := [] }
  let (result, after) := { s with store := forgetful }.step step
  let script := match after.store with
    | .scripted store => some (store.loads, store.executed)
    | .catalog _ => none
  (⟨result, after.cache.tableNames, script⟩, after)

/-- The accounts of steps, one after another. -/
def run (s : Session) : List Step → List Entry
  | [] => []
  | step :: steps =>
    let (entry, after) := s.record step
    entry :: run after steps

end Session

end DocumentQuery
