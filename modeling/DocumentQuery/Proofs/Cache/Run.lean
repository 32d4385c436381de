import DocumentQuery.Engine.Query
import DocumentQuery.Proofs.Table.Cache

/-!
# Runs of a shared cache

Any number of fetches of columns share a cache with registrations and drops.
A fetch looks the table up, counts the drops, begins a read of the schema, gets
the answer and installs it, each in a step of its own, and other steps come
between them in any order.

* `Fetch`, `Action`, `Event`: how far a fetch has come, what can happen next,
  and what is remembered of it;
* `State`, `step`, `run`: the states and their changes;
* `Event.drops`, `Event.since`: what happened since a table was dropped last;
* `columns_eq_steps`: `Engine.columns` takes these steps.
-/

namespace DocumentQuery.CacheRun

/-- How far a fetch of the columns of a table has come. -/
inductive Fetch
  /-- The table was looked up and is not known. -/
  | missed (table : String)
  /-- The drops were counted. -/
  | counted (load : Load)
  /-- The read of the schema has begun. -/
  | asked (load : Load)
  /-- The schema has these columns. -/
  | answered (load : Load) (columns : ColumnMap)
  /-- The caller has the result. -/
  | done (result : Except Error ColumnMap)

/-- What can happen next. Fetches are numbered in the order in which they begin. -/
inductive Action
  | look (table : String)
  | count (id : Nat)
  | ask (id : Nat)
  | reply (id : Nat) (reading : Reading)
  | install (id : Nat)
  | register (table : String) (column : VirtualColumn)
  | invalidate (table : String)
  | clear

/-- What is remembered of a step. -/
inductive Event
  /-- A column was registered, and not refused. -/
  | registered (table : String) (column : VirtualColumn)
  | dropped (table : String)
  | droppedAll
  /-- The read of a schema has begun. -/
  | asked (id : Nat) (table : String)
  /-- The read has reported columns, in time. -/
  | answered (id : Nat) (table : String) (reported : List Column)
  deriving DecidableEq

structure State where
  cache : Cache
  fetches : List Fetch
  /-- What has happened, the latest first. -/
  log : List Event

namespace State

/-- Nothing has happened. -/
def start : State := ⟨.empty, [], []⟩

/-- The column that is known for a path of a table. -/
def column? (st : State) (table : String) (path : Path) : Option VirtualColumn :=
  st.cache.column? table path

/-- A fetch has come further. -/
def advance (st : State) (id : Nat) (fetch : Fetch) : State :=
  { st with fetches := st.fetches.set id fetch }

/-- Something has happened to be remembered. -/
def note (st : State) (event : Event) : State := { st with log := event :: st.log }

end State

/-- The fetch that begins with a look at what is known. -/
def Fetch.begin (cache : Cache) (table : String) : Fetch :=
  match cache.get? table with
  | some columns => .done (.ok columns)
  | none => .missed table

/-- The next state. An action on a fetch that has not come this far, or that is done,
changes nothing. -/
def step (e : Engine) (st : State) : Action → State
  | .look table => { st with fetches := st.fetches ++ [.begin st.cache table] }
  | .count id =>
    match st.fetches[id]? with
    | some (.missed table) => st.advance id (.counted (st.cache.load table))
    | _ => st
  | .ask id =>
    match st.fetches[id]? with
    | some (.counted load) => (st.advance id (.asked load)).note (.asked id load.table)
    | _ => st
  | .reply id reading =>
    match st.fetches[id]? with
    | some (.asked load) =>
      match reading.columns? load.table e.settings.loadTimeout with
      | .error fault => st.advance id (.done (.error fault))
      | .ok reported =>
        (st.advance id (.answered load (.ofReported e.sourcePath? reported))).note
          (.answered id load.table reported)
    | _ => st
  | .install id =>
    match st.fetches[id]? with
    | some (.answered load columns) =>
      let (result, cache) := st.cache.install load columns
      { st.advance id (.done (.ok result)) with cache := cache }
    | _ => st
  | .register table column =>
    match st.cache.register table column with
    | .error _ => st
    | .ok cache => { st with cache := cache }.note (.registered table column)
  | .invalidate table => { st with cache := st.cache.invalidate table }.note (.dropped table)
  | .clear => { st with cache := st.cache.clear }.note .droppedAll

/-- The state after any number of steps. -/
def run (e : Engine) (st : State) (actions : List Action) : State := actions.foldl (step e) st

theorem run_cons (e : Engine) (st : State) (a : Action) (actions : List Action) :
    run e st (a :: actions) = run e (step e st a) actions := rfl

/-! ## Drops -/

/-- Whether a table is not known any more after an event. -/
def Event.drops (table : String) : Event → Bool
  | .dropped t => t == table
  | .droppedAll => true
  | _ => false

/-- Whether some table is not known any more after an event. -/
def Event.isDrop : Event → Bool
  | .dropped _ => true
  | .droppedAll => true
  | _ => false

/-- What happened since a table was dropped last, the latest first. -/
def Event.since (table : String) (log : List Event) : List Event :=
  log.takeWhile (!·.drops table)

theorem Event.since_cons {event : Event} {t : String} (h : event.drops t = false)
    (log : List Event) : since t (event :: log) = event :: since t log :=
  List.takeWhile_cons_of_pos (by simp [h])

theorem Event.since_cons_of_drops {event : Event} {t : String} (h : event.drops t = true)
    (log : List Event) : since t (event :: log) = [] :=
  List.takeWhile_cons_of_neg (by simp [h])

/-- How often something was dropped. -/
def Event.dropCount (log : List Event) : Nat := log.countP isDrop

/-- The default settings, and the reader of the extraction calls that they make. -/
def defaultEngine : Engine := ⟨{}, ({} : Settings).extraction.sourcePath?⟩

/-! ## Single steps -/

section Steps

variable {e : Engine} {st : State} {id : Nat} {table : String} {load : Load}

theorem State.fetches_advance {fetch : Fetch} (h : st.fetches[id]? = some fetch) (next : Fetch) :
    (st.advance id next).fetches[id]? = some next := by
  obtain ⟨hlt, _⟩ := List.getElem?_eq_some_iff.mp h
  rw [advance, List.getElem?_set_self hlt]

theorem State.fetches_advance_ne {j : Nat} (hj : j ≠ id) (st : State) (next : Fetch) :
    (st.advance id next).fetches[j]? = st.fetches[j]? := by
  rw [advance, List.getElem?_set_ne (Ne.symm hj)]

theorem step_count (h : st.fetches[id]? = some (.missed table)) :
    step e st (.count id) = st.advance id (.counted (st.cache.load table)) := by
  rw [step, h]

theorem step_ask (h : st.fetches[id]? = some (.counted load)) :
    step e st (.ask id) = (st.advance id (.asked load)).note (.asked id load.table) := by
  rw [step, h]

theorem step_reply_error {reading : Reading} {fault : Error}
    (h : st.fetches[id]? = some (.asked load))
    (hr : reading.columns? load.table e.settings.loadTimeout = .error fault) :
    step e st (.reply id reading) = st.advance id (.done (.error fault)) := by
  rw [step, h]
  dsimp only
  rw [hr]

theorem step_reply_ok {reading : Reading} {reported : List Column}
    (h : st.fetches[id]? = some (.asked load))
    (hr : reading.columns? load.table e.settings.loadTimeout = .ok reported) :
    step e st (.reply id reading) =
      (st.advance id (.answered load (.ofReported e.sourcePath? reported))).note
        (.answered id load.table reported) := by
  rw [step, h]
  dsimp only
  rw [hr]

theorem step_install {columns : ColumnMap} (h : st.fetches[id]? = some (.answered load columns)) :
    step e st (.install id) =
      { st.advance id (.done (.ok (st.cache.install load columns).1)) with
        cache := (st.cache.install load columns).2 } := by
  rw [step, h]

/-- A fetch that is done has nothing to install. -/
theorem step_install_done {result : Except Error ColumnMap}
    (h : st.fetches[id]? = some (.done result)) : step e st (.install id) = st := by
  rw [step, h]

theorem step_register_ok {column : VirtualColumn} {cache : Cache}
    (h : st.cache.register table column = .ok cache) :
    step e st (.register table column) =
      { st with cache := cache }.note (.registered table column) := by
  rw [step, h]

theorem step_register_error {column : VirtualColumn} {fault : Error}
    (h : st.cache.register table column = .error fault) :
    step e st (.register table column) = st := by
  rw [step, h]

/-- A step only adds to what is remembered. -/
theorem log_step (e : Engine) (st : State) (a : Action) :
    ∃ events, (step e st a).log = events ++ st.log := by
  cases a with
  | look table => exact ⟨[], rfl⟩
  | count id =>
    rw [step]
    split <;> exact ⟨[], rfl⟩
  | ask id =>
    rw [step]
    split
    · exact ⟨[_], rfl⟩
    · exact ⟨[], rfl⟩
  | reply id reading =>
    rw [step]
    split
    · split
      · exact ⟨[], rfl⟩
      · exact ⟨[_], rfl⟩
    · exact ⟨[], rfl⟩
  | install id =>
    rw [step]
    split <;> exact ⟨[], rfl⟩
  | register table column =>
    rw [step]
    split
    · exact ⟨[], rfl⟩
    · exact ⟨[_], rfl⟩
  | invalidate table => exact ⟨[_], rfl⟩
  | clear => exact ⟨[_], rfl⟩

theorem log_run (e : Engine) (st : State) (actions : List Action) :
    ∃ events, (run e st actions).log = events ++ st.log := by
  induction actions generalizing st with
  | nil => exact ⟨[], rfl⟩
  | cons a actions ih =>
    obtain ⟨later, hlater⟩ := ih (step e st a)
    obtain ⟨events, hevents⟩ := log_step e st a
    exact ⟨later ++ events, by rw [run_cons, hlater, hevents, List.append_assoc]⟩

end Steps

/-! ## The steps of a call -/

/-- A call that finds a table unknown asks for its schema, which takes the first three
steps of a fetch; and when it has the reply it takes the other two. -/
theorem columns_eq_steps (e : Engine) {table : String} {cache : Cache}
    (h : cache.get? table = none) :
    ∃ resume, e.columns table cache = .ask (.readSchema table) cache resume ∧
      (∀ st : State, st.cache = cache →
        let id := st.fetches.length
        let asked := run e st [.look table, .count id, .ask id]
        asked.cache = cache ∧ asked.fetches[id]? = some (.asked (cache.load table))) ∧
      ∀ (st : State) (id : Nat) (reading : Reading),
        st.fetches[id]? = some (.asked (cache.load table)) →
        let replied := run e st [.reply id reading, .install id]
        ∃ result, resume reading st.cache = .done result replied.cache ∧
          replied.fetches[id]? = some (.done result) := by
  refine ⟨_, by rw [Engine.columns, h], ?_, ?_⟩
  · rintro st rfl
    have hlook : (step e st (.look table)).fetches[st.fetches.length]? = some (.missed table) := by
      rw [step, Fetch.begin, h]
      exact List.getElem?_concat_length
    have hcounted := State.fetches_advance hlook
      (.counted ((step e st (.look table)).cache.load table))
    simp only [run_cons, step_count hlook, step_ask hcounted]
    exact ⟨rfl, State.fetches_advance hcounted (.asked (st.cache.load table))⟩
  · intro st id reading hasked
    cases hr : reading.columns? table e.settings.loadTimeout with
    | error fault =>
      have hdone := State.fetches_advance hasked (.done (.error fault))
      simp only [run_cons, step_reply_error hasked hr, step_install_done hdone]
      exact ⟨_, rfl, hdone⟩
    | ok reported =>
      have hanswered : (step e st (.reply id reading)).fetches[id]? =
          some (.answered (cache.load table) (.ofReported e.sourcePath? reported)) := by
        rw [step_reply_ok hasked hr]
        exact State.fetches_advance hasked _
      have hcache : (step e st (.reply id reading)).cache = st.cache := by
        rw [step_reply_ok hasked hr]
        rfl
      simp only [run_cons, step_install hanswered, hcache]
      exact ⟨_, rfl, State.fetches_advance hanswered _⟩

end DocumentQuery.CacheRun
