import DocumentQuery.Sql.Ddl
import DocumentQuery.Table.Cache

/-!
# Calls that ask a store

A call works on the cache and now and then asks the store something. While it
waits for the reply, other calls may change the cache, so it goes on with the
cache that it then finds.

* `Request`, `Request.Reply`: what a store is asked and what it replies;
* `Call`: a call from one request to the next;
* `Task`: a computation on the cache that is such a call;
* `Call.run`: a call with nothing else going on.
-/

namespace DocumentQuery

/-- What a store can be asked. -/
inductive Request
  | readSchema (table : String)
  | hasColumn (table column : String)
  | execute (statement : Ddl)
  deriving DecidableEq, Repr

/-- The type of the reply to a request. -/
def Request.Reply : Request → Type
  | .readSchema _ => Reading
  | .hasColumn _ _ => Except Error Bool
  | .execute _ => Except Error Unit

/-- A call that is done, or that waits for a reply and then goes on. -/
inductive Call (α : Type) where
  | done (result : Except Error α) (cache : Cache)
  | ask (request : Request) (cache : Cache) (resume : request.Reply → Cache → Call α)

namespace Call

variable {α β σ : Type}

/-- Goes on with the result of a call; an error ends it. -/
def bind : Call α → (α → Cache → Call β) → Call β
  | .done (.ok a) cache, next => next a cache
  | .done (.error e) cache, _ => .done (.error e) cache
  | .ask request cache resume, next =>
    .ask request cache fun reply cache => (resume reply cache).bind next

/-- The result of a call with a store that `answer` stands for, the cache and the
store after it. -/
def run (answer : σ → (request : Request) → request.Reply × σ) :
    Call α → σ → Except Error α × Cache × σ
  | .done result cache, store => (result, cache, store)
  | .ask request cache resume, store =>
    (resume (answer store request).1 cache).run answer (answer store request).2

end Call

/-- A computation on the cache that may ask the store. -/
def Task (α : Type) : Type := Cache → Call α

namespace Task

variable {α β : Type}

instance : Monad Task where
  pure a := fun cache => .done (.ok a) cache
  bind task next := fun cache => (task cache).bind next

/-- Goes on with a result that needs no store. -/
def lift (result : Except Error α) : Task α := fun cache => .done result cache

/-- Changes the cache. -/
def modify (f : Cache → Cache) : Task Unit := fun cache => .done (.ok ()) (f cache)

/-- Changes the cache unless the change is refused. -/
def tryModify (f : Cache → Except Error Cache) : Task Unit := fun cache =>
  match f cache with
  | .ok changed => .done (.ok ()) changed
  | .error e => .done (.error e) cache

/-- Asks the store whether a table has a column. -/
def hasColumn (table column : String) : Task Bool := fun cache =>
  .ask (.hasColumn table column) cache fun reply cache => .done reply cache

/-- Has the store execute a statement. -/
def execute (statement : Ddl) : Task Unit := fun cache =>
  .ask (.execute statement) cache fun reply cache => .done reply cache

end Task

end DocumentQuery
