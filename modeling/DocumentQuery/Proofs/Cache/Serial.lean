import DocumentQuery.Proofs.Cache.Run
import DocumentQuery.Proofs.Engine.Call

/-!
# Calls one after another

Calls on a cache of which each is over before the next begins, over a store
that may reply anything to a read of a schema, an error as well, and something
else each time.

* `Use`, `State`, `step`, `run`: the calls, and what they leave behind;
* `IsKnown`: a read reported the columns of a table, or a column of it was
  registered, since it was dropped last;
* `IsOrderly`: a read begins only while its table is not known, with what
  follows for the reads between two drops;
* `step_columns_known`, `step_columns_failed`, `step_columns_loaded`: all that a
  fetch of columns can do;
* `IsSound`: the invariant, which each step keeps (`isSound_step`) and every run
  has (`isSound_run`);
* `get?_run`: a table that is known stays as it is until a caller changes it;
* `schema_read_once`: the reads of a run, what its fetches give, and the tables
  that are known after it.
-/

namespace DocumentQuery

/-- Whether a table is known after an event. -/
def CacheRun.Event.makesKnown (table : String) : CacheRun.Event → Bool
  | .registered t _ => t == table
  | .answered _ t _ => t == table
  | _ => false

/-- Whether a read reports the columns of a table. -/
def CacheRun.Event.reports (table : String) : CacheRun.Event → Bool
  | .answered _ t _ => t == table
  | _ => false

namespace SerialRun

open CacheRun (Event defaultEngine)

variable {σ : Type}

/-- What a caller can do with a cache. -/
inductive Use
  | columns (table : String)
  | register (table : String) (column : VirtualColumn)
  | invalidate (table : String)
  | clear

/-- The cache and the store between two calls. -/
structure State (σ : Type) where
  cache : Cache
  store : σ
  /-- What has happened, the latest first. -/
  log : List Event

/-- Nothing has happened. -/
def State.start (store : σ) : State σ := ⟨.empty, store, []⟩

/-- What is remembered of a request: the beginning of a read, and the columns that it
reports. The number of a read is how much was remembered before it. -/
def remember (e : Engine) (log : List Event) : Exchange → List Event
  | ⟨.readSchema table, reading⟩ =>
    match Reading.columns? reading table e.settings.loadTimeout with
    | .ok reported => .answered log.length table reported :: .asked log.length table :: log
    | .error _ => .asked log.length table :: log
  | _ => log

/-- The state after a call. A registration that is refused changes nothing. -/
def step (e : Engine) (answer : σ → (request : Request) → request.Reply × σ) (st : State σ) :
    Use → State σ
  | .columns table =>
    let call := e.columns table st.cache
    { cache := (call.run answer st.store).2.1
      store := (call.run answer st.store).2.2
      log := (call.exchanges answer st.store).foldl (remember e) st.log }
  | .register table column =>
    match st.cache.register table column with
    | .ok cache => { st with cache := cache, log := .registered table column :: st.log }
    | .error _ => st
  | .invalidate table =>
    { st with cache := st.cache.invalidate table, log := .dropped table :: st.log }
  | .clear => { st with cache := st.cache.clear, log := .droppedAll :: st.log }

/-- The state after any number of calls. -/
def run (e : Engine) (answer : σ → (request : Request) → request.Reply × σ) (st : State σ)
    (uses : List Use) : State σ :=
  uses.foldl (step e answer) st

/-- Whether a call can change what is known of a table that is known. -/
def Use.changes (table : String) : Use → Bool
  | .columns _ => false
  | .register t _ => t == table
  | .invalidate t => t == table
  | .clear => true

/-! ## What happened since a drop -/

section Log

variable {event : Event} {log later earlier between window : List Event} {t : String} {id : Nat}

/-- Since a table was dropped last, a read of its schema reported columns or a column of it
was registered. -/
def IsKnown (table : String) (log : List Event) : Prop :=
  ∃ event ∈ Event.since table log, event.makesKnown table = true

theorem isKnown_cons :
    IsKnown t (event :: log) ↔
      event.drops t = false ∧ (event.makesKnown t = true ∨ IsKnown t log) := by
  rw [IsKnown]
  cases hdrop : event.drops t with
  | true =>
    rw [Event.since_cons_of_drops hdrop]
    exact ⟨nofun, nofun⟩
  | false =>
    rw [Event.since_cons hdrop]
    simp only [List.mem_cons, exists_eq_or_imp, true_and]
    rfl

/-- As long as nothing drops a table, it stays known. -/
theorem IsKnown.append (h : IsKnown t log) (hdrops : ∀ event ∈ later, event.drops t = false) :
    IsKnown t (later ++ log) := by
  induction later with
  | nil => exact h
  | cons event later ih =>
    obtain ⟨hevent, hlater⟩ := List.forall_mem_cons.mp hdrops
    exact isKnown_cons.mpr ⟨hevent, .inr (ih hlater)⟩

theorem drops_eq_false_of_makesKnown (h : event.makesKnown t = true) : event.drops t = false := by
  cases event with
  | registered | answered => rfl
  | dropped | droppedAll | asked => cases h

theorem makesKnown_of_reports (h : event.reports t = true) : event.makesKnown t = true := by
  cases event with
  | answered => exact h
  | registered | dropped | droppedAll | asked => cases h

theorem isKnown_of_makesKnown (h : event.makesKnown t = true)
    (hdrops : ∀ event ∈ between, event.drops t = false) :
    IsKnown t (between ++ event :: earlier) :=
  .append (isKnown_cons.mpr ⟨drops_eq_false_of_makesKnown h, .inl h⟩) hdrops

/-- A read of the schema of a table begins only while the table is not known. If it
reports columns, then before anything else happens. -/
inductive IsOrderly : List Event → Prop
  | start : IsOrderly []
  | asked {log : List Event} {t : String} (h : IsOrderly log) (hunknown : ¬ IsKnown t log)
    (id : Nat) : IsOrderly (.asked id t :: log)
  | answered {log : List Event} {t : String} {id : Nat} (h : IsOrderly (.asked id t :: log))
    (reported : List Column) : IsOrderly (.answered id t reported :: .asked id t :: log)
  | registered {log : List Event} (h : IsOrderly log) (t : String) (column : VirtualColumn) :
    IsOrderly (.registered t column :: log)
  | dropped {log : List Event} (h : IsOrderly log) (t : String) : IsOrderly (.dropped t :: log)
  | droppedAll {log : List Event} (h : IsOrderly log) : IsOrderly (.droppedAll :: log)

namespace IsOrderly

theorem of_cons (h : IsOrderly (event :: log)) : IsOrderly log := by
  cases h with
  | asked h | answered h | registered h | dropped h | droppedAll h => exact h

theorem of_append (h : IsOrderly (later ++ log)) : IsOrderly log := by
  induction later with
  | nil => exact h
  | cons event later ih => exact ih h.of_cons

theorem not_isKnown (h : IsOrderly (.asked id t :: log)) : ¬ IsKnown t log := by
  cases h with
  | asked _ hunknown => exact hunknown

/-- The report of a read comes right after its beginning. -/
theorem exists_asked (h : IsOrderly (event :: log)) (hreports : event.reports t = true) :
    ∃ id rest, log = .asked id t :: rest := by
  cases h with
  | @answered rest u id h reported =>
    have hu : u = t := beq_iff_eq.mp hreports
    exact ⟨id, rest, by rw [hu]⟩
  | asked | registered | dropped | droppedAll => cases hreports

/-- After what made a table known, it was dropped before a read of its schema began. -/
theorem exists_drops (h : IsOrderly (.asked id t :: (between ++ event :: earlier)))
    (hknown : event.makesKnown t = true) : ∃ event ∈ between, event.drops t = true := by
  by_contra hnone
  refine h.not_isKnown (isKnown_of_makesKnown hknown fun other hmem => ?_)
  exact Bool.eq_false_iff.mpr fun hdrop => hnone ⟨other, hmem, hdrop⟩

/-- While a table is not dropped, at most one read of its schema reports columns. -/
theorem countP_reports_le_one (h : IsOrderly (window ++ earlier))
    (hdrops : ∀ event ∈ window, event.drops t = false) : window.countP (·.reports t) ≤ 1 := by
  induction window with
  | nil => exact Nat.zero_le 1
  | cons event window ih =>
    obtain ⟨_, hwindow⟩ := List.forall_mem_cons.mp hdrops
    by_cases hreports : event.reports t = true
    · -- An earlier report would have made the table known before this read began.
      have hnone : ∀ other ∈ window, ¬ other.reports t = true := by
        intro other hmem hother
        obtain ⟨id, rest, hrest⟩ := h.exists_asked hreports
        obtain ⟨first, last, rfl⟩ := List.append_of_mem hmem
        cases first with
        | nil =>
          cases hrest
          cases hother
        | cons first between =>
          obtain ⟨rfl, _⟩ := List.cons.inj hrest
          have hread : IsOrderly (.asked id t :: (between ++ other :: (last ++ earlier))) := by
            simpa using h.of_cons
          obtain ⟨drop, hmem, hdrop⟩ := hread.exists_drops (makesKnown_of_reports hother)
          have hkept := hwindow drop (.tail _ (List.mem_append_left _ hmem))
          exact Bool.noConfusion (hkept.symm.trans hdrop)
      have hcount : window.countP (·.reports t) = 0 := List.countP_eq_zero.mpr hnone
      simp [hreports, hcount]
    · rw [List.countP_cons_of_neg hreports]
      exact ih h.of_cons hwindow

end IsOrderly

end Log

/-! ## Fetches -/

section Fetches

variable {e : Engine} {answer : σ → (request : Request) → request.Reply × σ} {cache : Cache}
  {store : σ} {st : State σ} {t : String} {m : ColumnMap} {fault : Error} {reported : List Column}

theorem columns_of_known (h : cache.get? t = some m) : e.columns t cache = .done (.ok m) cache := by
  rw [Engine.columns, h]

theorem exchanges_columns (h : cache.get? t = none) :
    (e.columns t cache).exchanges answer store =
      [⟨.readSchema t, (answer store (.readSchema t)).1⟩] := by
  rw [Engine.columns, h]
  simp only [Call.exchanges]
  split <;> rfl

theorem run_columns_failed (h : cache.get? t = none)
    (hr : Reading.columns? (answer store (.readSchema t)).1 t e.settings.loadTimeout =
      .error fault) :
    (e.columns t cache).run answer store =
      (.error fault, cache, (answer store (.readSchema t)).2) := by
  rw [Engine.columns, h]
  simp only [Call.run, hr]

theorem run_columns_loaded (h : cache.get? t = none)
    (hr : Reading.columns? (answer store (.readSchema t)).1 t e.settings.loadTimeout =
      .ok reported) :
    (e.columns t cache).run answer store =
      (.ok (.ofReported e.sourcePath? reported), cache.put t (.ofReported e.sourcePath? reported),
        (answer store (.readSchema t)).2) := by
  rw [Engine.columns, h]
  simp only [Call.run, hr, Cache.install_load h]

/-- The columns of a table that is known are given without a read. -/
theorem step_columns_known (h : st.cache.get? t = some m) :
    step e answer st (.columns t) = st := by
  rw [step, columns_of_known h]
  rfl

theorem step_columns_failed (h : st.cache.get? t = none)
    (hr : Reading.columns? (answer st.store (.readSchema t)).1 t e.settings.loadTimeout =
      .error fault) :
    step e answer st (.columns t) =
      ⟨st.cache, (answer st.store (.readSchema t)).2, .asked st.log.length t :: st.log⟩ := by
  rw [step, run_columns_failed h hr, exchanges_columns h]
  simp only [List.foldl_cons, List.foldl_nil, remember, hr]

theorem step_columns_loaded (h : st.cache.get? t = none)
    (hr : Reading.columns? (answer st.store (.readSchema t)).1 t e.settings.loadTimeout =
      .ok reported) :
    step e answer st (.columns t) =
      ⟨st.cache.put t (.ofReported e.sourcePath? reported), (answer st.store (.readSchema t)).2,
        .answered st.log.length t reported :: .asked st.log.length t :: st.log⟩ := by
  rw [step, run_columns_loaded h hr, exchanges_columns h]
  simp only [List.foldl_cons, List.foldl_nil, remember, hr]

/-- What a fetch gives is known afterwards. -/
theorem get?_of_run_columns {next : Cache} {rest : σ}
    (h : (e.columns t cache).run answer store = (.ok m, next, rest)) : next.get? t = some m := by
  cases hm : cache.get? t with
  | some known =>
    rw [columns_of_known hm] at h
    cases h
    exact hm
  | none =>
    cases hr : Reading.columns? (answer store (.readSchema t)).1 t e.settings.loadTimeout with
    | error fault => cases (run_columns_failed hm hr).symm.trans h
    | ok reported =>
      cases (run_columns_loaded hm hr).symm.trans h
      exact (Cache.get?_put ..).trans (if_pos rfl)

end Fetches

/-! ## The invariant -/

section Invariant

variable {e : Engine} {answer : σ → (request : Request) → request.Reply × σ} {st : State σ}
  {t u : String} {m : ColumnMap}

/-- What has happened tells which tables are known, and they are kept in order. -/
structure IsSound (st : State σ) : Prop where
  known : ∀ t, (st.cache.get? t).isSome = true ↔ IsKnown t st.log
  orderly : IsOrderly st.log
  sorted : st.cache.tableNames.Pairwise (· < ·)

theorem isSound_start (store : σ) : IsSound (.start store) where
  known _ := ⟨nofun, nofun⟩
  orderly := .start
  sorted := .nil

theorem not_isKnown_of_none (h : IsSound st) (hnone : st.cache.get? t = none) :
    ¬ IsKnown t st.log := by
  rw [← h.known, hnone]
  exact Bool.false_ne_true

theorem isSound_columns (h : IsSound st) (t : String) :
    IsSound (step e answer st (.columns t)) := by
  cases hm : st.cache.get? t with
  | some m =>
    rw [step_columns_known hm]
    exact h
  | none =>
    have hasked := h.orderly.asked (not_isKnown_of_none h hm) st.log.length
    cases hr : Reading.columns? (answer st.store (.readSchema t)).1 t e.settings.loadTimeout with
    | error fault =>
      rw [step_columns_failed hm hr]
      refine ⟨fun u => ?_, hasked, h.sorted⟩
      rw [h.known, isKnown_cons]
      simp [Event.drops, Event.makesKnown]
    | ok reported =>
      rw [step_columns_loaded hm hr]
      refine ⟨fun u => ?_, hasked.answered reported, Cache.pairwise_tableNames_put h.sorted t _⟩
      rw [Cache.isSome_get?_put, h.known, isKnown_cons, isKnown_cons]
      simp [Event.drops, Event.makesKnown]

theorem isSound_register (h : IsSound st) (t : String) (column : VirtualColumn) :
    IsSound (step e answer st (.register t column)) := by
  rw [step]
  split
  · rename_i cache hregister
    obtain ⟨_, rfl⟩ := Cache.register_eq_ok.mp hregister
    refine ⟨fun u => ?_, h.orderly.registered t column,
      Cache.pairwise_tableNames_put h.sorted t _⟩
    rw [Cache.isSome_get?_put, h.known, isKnown_cons]
    simp [Event.drops, Event.makesKnown]
  · exact h

theorem isSound_invalidate (h : IsSound st) (t : String) :
    IsSound (step e answer st (.invalidate t)) := by
  refine ⟨fun u => ?_, h.orderly.dropped t, Cache.pairwise_tableNames_invalidate h.sorted t⟩
  rw [step, Cache.isSome_get?_invalidate, h.known, isKnown_cons]
  simp [Event.drops, Event.makesKnown]

theorem isSound_clear (h : IsSound st) : IsSound (step e answer st .clear) where
  known u := by
    rw [step, isKnown_cons]
    exact ⟨nofun, nofun⟩
  orderly := h.orderly.droppedAll
  sorted := .nil

theorem isSound_step (h : IsSound st) (use : Use) : IsSound (step e answer st use) := by
  cases use with
  | columns t => exact isSound_columns h t
  | register t column => exact isSound_register h t column
  | invalidate t => exact isSound_invalidate h t
  | clear => exact isSound_clear h

theorem isSound_run (h : IsSound st) (uses : List Use) : IsSound (run e answer st uses) := by
  induction uses generalizing st with
  | nil => exact h
  | cons use uses ih => exact ih (isSound_step h use)

/-! ## What stays known -/

/-- A call that does not drop a table or register a column of it leaves it as it is. -/
theorem get?_step (h : st.cache.get? t = some m) {use : Use} (hkeep : use.changes t = false) :
    (step e answer st use).cache.get? t = some m := by
  cases use with
  | columns u =>
    cases hu : st.cache.get? u with
    | some known => rwa [step_columns_known hu]
    | none =>
      have hne : t ≠ u := by
        rintro rfl
        cases hu.symm.trans h
      cases hr : Reading.columns? (answer st.store (.readSchema u)).1 u e.settings.loadTimeout with
      | error fault => rwa [step_columns_failed hu hr]
      | ok reported =>
        rw [step_columns_loaded hu hr, Cache.get?_put, if_neg hne]
        exact h
  | register u column =>
    have hne : t ≠ u := Ne.symm (beq_eq_false_iff_ne.mp hkeep)
    rw [step]
    split
    · rename_i cache hregister
      exact (Cache.get?_register_of_ne hregister hne).trans h
    · exact h
  | invalidate u =>
    have hne : t ≠ u := Ne.symm (beq_eq_false_iff_ne.mp hkeep)
    exact (Cache.get?_invalidate ..).trans ((if_neg hne).trans h)
  | clear => cases hkeep

theorem get?_run (h : st.cache.get? t = some m) {uses : List Use}
    (hkeep : ∀ use ∈ uses, use.changes t = false) :
    (run e answer st uses).cache.get? t = some m := by
  induction uses generalizing st with
  | nil => exact h
  | cons use uses ih =>
    obtain ⟨huse, huses⟩ := List.forall_mem_cons.mp hkeep
    exact ih (get?_step h huse) huses

end Invariant

/-! ## The reads of a run -/

/-- After calls one after another, whatever the store replied to them:

* while a table was not dropped, at most one read of its schema reported columns;
* once a read reported its columns or a column of it was registered, no read of its schema
  began before it was dropped;
* a fetch of the columns of a table that is not known reads its schema, once;
* the columns of a table that is known are given without a read and without a change, now
  and as long as the table is not dropped and no column of it is registered;
* the columns that a fetch gives are known after it;
* the names of the known tables are in ascending order, each once, and these are the tables
  of which a read reported the columns, or a column was registered, since they were dropped
  last. -/
theorem schema_read_once (e : Engine)
    (answer : σ → (request : Request) → request.Reply × σ) (store : σ) (uses : List Use) :
    let st := run e answer (.start store) uses
    (∀ t later window earlier, st.log = later ++ window ++ earlier →
      (∀ event ∈ window, event.drops t = false) → window.countP (·.reports t) ≤ 1) ∧
    (∀ t id later between known earlier,
      st.log = later ++ .asked id t :: (between ++ known :: earlier) →
      known.makesKnown t = true → ∃ event ∈ between, event.drops t = true) ∧
    (∀ t, ¬ IsKnown t st.log → (e.columns t st.cache).exchanges answer st.store =
      [⟨.readSchema t, (answer st.store (.readSchema t)).1⟩]) ∧
    (∀ t, IsKnown t st.log → ∃ m, st.cache.get? t = some m ∧
      ∀ after, (∀ use ∈ after, use.changes t = false) →
        let now := run e answer st after
        (e.columns t now.cache).run answer now.store = (.ok m, now.cache, now.store)) ∧
    (∀ t m cache next,
      (e.columns t st.cache).run answer st.store = (.ok m, cache, next) → cache.get? t = some m) ∧
    st.cache.tableNames.Pairwise (· < ·) ∧
    ∀ t, t ∈ st.cache.tableNames ↔ IsKnown t st.log := by
  intro st
  have h : IsSound st := isSound_run (isSound_start store) uses
  refine ⟨fun t later window earlier hlog hdrops => ?_,
    fun t id later between known earlier hlog hknown => ?_,
    fun t hunknown => exchanges_columns (Option.not_isSome_iff_eq_none.mp fun hsome => ?_),
    fun t hknown => ?_, fun t m cache next => get?_of_run_columns, h.sorted,
    fun t => Cache.mem_tableNames.trans (h.known t)⟩
  · have horderly := h.orderly
    rw [hlog, List.append_assoc] at horderly
    exact horderly.of_append.countP_reports_le_one hdrops
  · have horderly := h.orderly
    rw [hlog] at horderly
    exact horderly.of_append.exists_drops hknown
  · exact hunknown ((h.known t).mp hsome)
  · obtain ⟨m, hm⟩ := Option.isSome_iff_exists.mp ((h.known t).mpr hknown)
    refine ⟨m, hm, fun after hkeep => ?_⟩
    intro now
    have hnow : now.cache.get? t = some m := get?_run hm hkeep
    rw [columns_of_known hnow]
    rfl

/-- A store that gives these readings in turn, and after them schemas without columns. -/
def readInTurn : List Reading → (request : Request) → request.Reply × List Reading
  | reading :: readings, .readSchema _ => (reading, readings)
  | [], .readSchema _ => (⟨0, .ok []⟩, [])
  | readings, .hasColumn _ _ => (.ok false, readings)
  | readings, .execute _ => (.ok (), readings)

/-- The first read fails, the second does not. -/
def failingFirst : List Reading :=
  [⟨5, .error (.schemaRead "docs" (.reported "locked"))⟩,
    ⟨5, .ok [⟨"vc_name", "TEXT", true, some "json_extract(data, '$.name')"⟩]⟩]

/-- Fetches before and after a drop, and a table of which only a registration is known. -/
def fetchesAroundDrop : List Use :=
  [.columns "docs", .columns "docs", .columns "docs", .invalidate "docs", .columns "docs",
    .register "notes" ⟨⟨[.field "name"]⟩, "vc_name", .text⟩]

theorem schema_read_once_failing :
    let st := run defaultEngine readInTurn (.start failingFirst) fetchesAroundDrop
    let beforeDrop : List Event :=
      [.answered 1 "docs" [⟨"vc_name", "TEXT", true, some "json_extract(data, '$.name')"⟩],
        .asked 1 "docs", .asked 0 "docs"]
    st.log = .registered "notes" ⟨⟨[.field "name"]⟩, "vc_name", .text⟩ ::
      .answered 4 "docs" [] :: .asked 4 "docs" :: .dropped "docs" :: beforeDrop ∧
    beforeDrop.countP (·.reports "docs") ≤ 1 ∧
    (∃ event ∈ [Event.dropped "docs"], event.drops "docs" = true) ∧
    st.cache.tableNames = ["docs", "notes"] ∧
    IsKnown "notes" st.log ∧
    ∃ m, st.cache.get? "docs" = some m ∧
      (defaultEngine.columns "docs" st.cache).run readInTurn st.store =
        (.ok m, st.cache, st.store) := by
  intro st beforeDrop
  obtain ⟨honce, hdrop, -, hknown, -, -, hnames⟩ :=
    schema_read_once defaultEngine readInTurn failingFirst fetchesAroundDrop
  have hlog : st.log = .registered "notes" ⟨⟨[.field "name"]⟩, "vc_name", .text⟩ ::
      .answered 4 "docs" [] :: .asked 4 "docs" :: .dropped "docs" :: beforeDrop := rfl
  have htables : st.cache.tableNames = ["docs", "notes"] := rfl
  have hnotes : "notes" ∈ st.cache.tableNames := htables ▸ .tail _ (.head _)
  have hdocs : "docs" ∈ st.cache.tableNames := htables ▸ .head _
  obtain ⟨m, hm, hserved⟩ := hknown "docs" ((hnames "docs").mp hdocs)
  refine ⟨hlog, ?_, ?_, htables, (hnames "notes").mp hnotes, m, hm, hserved [] nofun⟩
  · exact honce "docs" [_, _, _, _] beforeDrop [] hlog (by decide)
  · exact hdrop "docs" 4 [_, _] [_] _ [_, _] hlog rfl

end SerialRun

end DocumentQuery
