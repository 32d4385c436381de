import DocumentQuery.Proofs.Cache.Run
import DocumentQuery.Proofs.Provision.Keeps

/-!
# Runs of provisionings over one store

Any number of provisionings and fetches of columns work over one store and one
cache. Each goes on from one request to the next without a stop; between the
moments at which it makes a request, the store replies to it and it goes on,
others come between, columns may be dropped from the cache, and others who know
nothing of the cache may add columns to the store.

* `Work`, `Pending`, `Action`: what is called, how far a call has come, and what
  can happen next;
* `State`, `step`, `run`: the states and their changes;
* `IsTrue`: the invariant, which each step keeps (`isTrue_step`) and every run
  has (`isTrue_run`);
* `columns_true`: what the cache says after a run.
-/

namespace DocumentQuery.ProvisionRun

/-- What is called. -/
inductive Work
  | ensure (table : String) (spec : ColumnSpec)
  | fetch (table : String)

/-- The computation of a call. Its result is for its caller alone. -/
def Work.task (e : Engine) : Work → Task Unit
  | .ensure table spec => do let _ ← e.ensureColumn table spec
  | .fetch table => do let _ ← e.columns table

/-- How far a call has come. -/
inductive Pending
  /-- The store has not replied yet. -/
  | asked (request : Request) (resume : request.Reply → Cache → Call Unit)
  /-- The store has replied, and the call has not gone on yet. -/
  | answered (resume : Cache → Call Unit)
  | ended

/-- What can happen next. Calls are numbered in the order in which they begin. -/
inductive Action
  | begin (work : Work)
  /-- The store replies to a call, with this fault if there is one. -/
  | answer (id : Nat) (fault : Option Error) (elapsed : Nat)
  | goOn (id : Nat)
  | invalidate (table : String)
  | clear
  /-- Somebody else adds a column, if its name is not taken. -/
  | extend (table : String) (column : Column)

structure State where
  cache : Cache
  schemas : Schemas
  calls : List Pending

namespace State

/-- Nothing is known and nothing was called. -/
def start (schemas : Schemas) : State := ⟨.empty, schemas, []⟩

/-- A call has come this far. -/
def advance (st : State) (id : Nat) (pending : Pending) : State :=
  { st with calls := st.calls.set id pending }

/-- A call runs until it ends or asks the store something. -/
def proceed (st : State) (id : Nat) : Call Unit → State
  | .done _ cache => { st.advance id .ended with cache := cache }
  | .ask request cache resume => { st.advance id (.asked request resume) with cache := cache }

end State

/-- The next state. An action on a call that has not come this far changes nothing. -/
def step (e : Engine) (st : State) : Action → State
  | .begin work =>
    { st with calls := st.calls ++ [Pending.ended] }.proceed st.calls.length (work.task e st.cache)
  | .answer id fault elapsed =>
    match st.calls[id]? with
    | some (.asked request resume) =>
      let (reply, schemas) := st.schemas.answer fault elapsed request
      { st.advance id (.answered (resume reply)) with schemas := schemas }
    | _ => st
  | .goOn id =>
    match st.calls[id]? with
    | some (.answered resume) => st.proceed id (resume st.cache)
    | _ => st
  | .invalidate table => { st with cache := st.cache.invalidate table }
  | .clear => { st with cache := st.cache.clear }
  | .extend table column => { st with schemas := st.schemas.add table column }

/-- The state after any number of steps. -/
def run (e : Engine) (st : State) (actions : List Action) : State := actions.foldl (step e) st

/-! ## The invariant -/

variable {e : Engine} {st : State} {s s₁ : Schemas} {id : Nat}

/-- Whatever the store replies and whatever is known when the call goes on, it leaves
nothing false behind. -/
def Pending.Keeps (e : Engine) (s : Schemas) : Pending → Prop
  | .asked request resume => ∀ s₁, s.Within s₁ → ∀ fault elapsed s₂,
      (s₁.answer fault elapsed request).2.Within s₂ → ∀ now : Cache, now.IsTrue e s₂ →
        (resume (s₁.answer fault elapsed request).1 now).Keeps e (fun _ _ => True) s₂
  | .answered resume => ∀ s₁, s.Within s₁ → ∀ now : Cache, now.IsTrue e s₁ →
      (resume now).Keeps e (fun _ _ => True) s₁
  | .ended => True

theorem Pending.Keeps.mono {pending : Pending} (h : pending.Keeps e s) (hle : s.Within s₁) :
    pending.Keeps e s₁ := by
  cases pending with
  | asked => exact fun s₂ hle₂ => h s₂ (hle.trans hle₂)
  | answered => exact fun s₂ hle₂ => h s₂ (hle.trans hle₂)
  | ended => trivial

/-- The cache says nothing false of the store, and no call will make it. -/
structure IsTrue (e : Engine) (st : State) : Prop where
  cache : st.cache.IsTrue e st.schemas
  calls : ∀ (id : Nat) (pending : Pending), st.calls[id]? = some pending →
    pending.Keeps e st.schemas

theorem isTrue_start (e : Engine) (schemas : Schemas) : IsTrue e (.start schemas) where
  cache := .empty
  calls _ _ h := nomatch h

/-- The store has grown, or the cache has changed, and a call has come further. -/
theorem IsTrue.advance (h : IsTrue e st) (hle : st.schemas.Within s) {cache : Cache}
    (hcache : cache.IsTrue e s) (pending : Pending) (hpending : pending.Keeps e s) :
    IsTrue e { st.advance id pending with cache := cache, schemas := s } where
  cache := hcache
  calls j next hj := by
    rw [State.advance, List.getElem?_set] at hj
    split at hj
    · split at hj
      · cases hj
        exact hpending
      · cases hj
    · exact (h.calls j next hj).mono hle

theorem IsTrue.proceed (h : IsTrue e st) {call : Call Unit}
    (hcall : call.Keeps e (fun _ _ => True) st.schemas) : IsTrue e (st.proceed id call) := by
  cases call with
  | done result cache => exact h.advance (.refl _) hcall.1 .ended trivial
  | ask request cache resume =>
    exact h.advance (.refl _) hcall.1 (.asked request resume) hcall.2

/-- Whether the paths that are asked for can be written. -/
def Work.IsWritable : Work → Prop
  | .ensure _ spec => spec.path.IsWritable
  | .fetch _ => True

instance : DecidablePred Work.IsWritable
  | .ensure _ spec => inferInstanceAs (Decidable spec.path.IsWritable)
  | .fetch _ => .isTrue trivial

def Action.IsWritable : Action → Prop
  | .begin work => work.IsWritable
  | _ => True

instance : DecidablePred Action.IsWritable
  | .begin work => inferInstanceAs (Decidable work.IsWritable)
  | .answer .. | .goOn _ | .invalidate _ | .clear | .extend .. => .isTrue trivial

theorem Work.keeps_task (hread : e.ReadsOwn) {work : Work} (hwork : work.IsWritable)
    {cache : Cache} (h : cache.IsTrue e s) :
    (work.task e cache).Keeps e (fun _ _ => True) s := by
  have hpure {now : Cache} {s₁ : Schemas} (hnow : now.IsTrue e s₁) :
      ((pure () : Task Unit) now).Keeps e (fun _ _ => True) s₁ := ⟨hnow, fun _ _ => trivial⟩
  cases work with
  | ensure table spec =>
    exact (e.keeps_ensureColumn h table hread hwork).bind fun _ _ _ _ hnow _ => hpure hnow
  | fetch table => exact (e.keeps_columns h table).bind fun _ _ _ _ hnow _ => hpure hnow

/-- Each step keeps the invariant. -/
theorem isTrue_step (hread : e.ReadsOwn) (h : IsTrue e st) {a : Action} (ha : a.IsWritable) :
    IsTrue e (step e st a) := by
  cases a with
  | begin work =>
    have hbegun : IsTrue e { st with calls := st.calls ++ [Pending.ended] } := by
      refine ⟨h.cache, fun j pending hj => ?_⟩
      rw [List.getElem?_append] at hj
      split at hj
      · exact h.calls j pending hj
      · obtain rfl := List.mem_singleton.mp (List.mem_of_getElem? hj)
        trivial
    exact hbegun.proceed (work.keeps_task hread ha h.cache)
  | answer id fault elapsed =>
    rw [step]
    split
    · rename_i request resume hasked
      have hle := st.schemas.within_answer fault elapsed request
      exact h.advance hle (h.cache.mono hle) (.answered _) fun s₂ hle₂ now hnow =>
        h.calls id _ hasked st.schemas (.refl _) fault elapsed s₂ hle₂ now hnow
    · exact h
  | goOn id =>
    rw [step]
    split
    · rename_i resume hanswered
      exact h.proceed (h.calls id _ hanswered st.schemas (.refl _) st.cache h.cache)
    · exact h
  | invalidate table => exact ⟨h.cache.invalidate table, h.calls⟩
  | clear => exact ⟨.clear st.cache, h.calls⟩
  | extend table column =>
    have hle := st.schemas.within_add table column
    exact ⟨h.cache.mono hle, fun j pending hj => (h.calls j pending hj).mono hle⟩

theorem isTrue_run (hread : e.ReadsOwn) (h : IsTrue e st) {actions : List Action}
    (hactions : ∀ a ∈ actions, a.IsWritable) : IsTrue e (run e st actions) := by
  induction actions generalizing st with
  | nil => exact h
  | cons a actions ih =>
    rw [List.forall_mem_cons] at hactions
    exact ih (isTrue_step hread h hactions.1) hactions.2

/-- Two paths that have the same column name, whatever the settings are: both have the name, or
it is too long for both. -/
theorem columnName_not_injective {settings : Settings}
    (hstart : Sql.checkName settings.columnPrefix = .ok ()) :
    ∃ p q : Path, p ≠ q ∧ p.IsWritable ∧ q.IsWritable ∧
      p.columnName settings = q.columnName settings ∧
      (settings.columnPrefix.toList.length + 3 ≤ Sql.maxNameLength →
        ∃ name, p.columnName settings = .ok name ∧ q.columnName settings = .ok name) := by
  let p : Path := ⟨[.field "a_b"]⟩
  let q : Path := ⟨[.field "a", .field "b"]⟩
  have hsame : p.columnName settings = q.columnName settings := rfl
  refine ⟨p, q, by decide, by decide, by decide, hsame, fun hlength => ?_⟩
  have htext : (p.columnText settings).toList = settings.columnPrefix.toList ++ ['a', '_', 'b'] := by
    have hpart : ("_".intercalate (p.segments.map Path.Segment.namePart)).toList =
        ['a', '_', 'b'] := by decide
    rw [Path.columnText, String.toList_append, hpart]
  have hcheck : Sql.checkName (p.columnText settings) = .ok () := by
    refine Sql.checkName_of_isWord ?_ ?_ ?_
    · rw [htext]
      exact Text.isWord_append (Sql.isWord_of_checkName hstart) (by decide)
    · simp [htext]
    · simpa [htext] using hlength
  have hname := Path.columnName_eq_ok.mpr ⟨rfl, hcheck⟩
  exact ⟨_, hname, hsame ▸ hname⟩

/-- Whatever is provisioned and fetched at the same time, each column that the cache gives
for a path is in the store and reads exactly this path. So a name never stands for two
paths of a table, although two paths can have the same column name. -/
theorem columns_true {settings : Settings} (hnew : Engine.new settings = .ok e) (schemas : Schemas)
    {actions : List Action} (hactions : ∀ a ∈ actions, a.IsWritable) :
    (∀ t p c, (run e (.start schemas) actions).cache.column? t p = some c →
      ∃ column ∈ ((run e (.start schemas) actions).schemas t).columns, column.name = c.name ∧
        ∃ text, column.expression = some text ∧ e.sourcePath? text = some p) ∧
    (∀ t p q c d, (run e (.start schemas) actions).cache.column? t p = some c →
      (run e (.start schemas) actions).cache.column? t q = some d → c.name = d.name → p = q) ∧
    ∃ p q : Path, p ≠ q ∧ p.IsWritable ∧ q.IsWritable ∧
      p.columnName settings = q.columnName settings ∧
      (settings.columnPrefix.toList.length + 3 ≤ Sql.maxNameLength →
        ∃ name, p.columnName settings = .ok name ∧ q.columnName settings = .ok name) := by
  have h := isTrue_run (Engine.readsOwn hnew) (isTrue_start e schemas) hactions
  refine ⟨fun t p c hc => h.cache.exposes hc, fun t p q c d hp hq hname => ?_,
    columnName_not_injective (Settings.isChecked (Engine.new_eq_ok.mp hnew).1).columnPrefix⟩
  exact (h.cache.exposes hp).unique (hname ▸ h.cache.exposes hq)

/-- Two provisionings of paths with the same column name, each of which finds that there is
no such column before the other adds it. -/
def race : List Action :=
  [.begin (.ensure "docs" ⟨⟨[.field "a_b"]⟩, .text, false⟩),
    .begin (.ensure "docs" ⟨⟨[.field "a", .field "b"]⟩, .text, true⟩),
    .answer 0 none 5, .answer 1 none 5, .goOn 0, .goOn 1, .answer 0 none 0, .answer 1 none 0,
    .goOn 0, .goOn 1, .answer 1 none 0, .answer 0 none 0, .goOn 0, .goOn 1, .answer 1 none 0,
    .goOn 1]

theorem columns_true_race :
    Engine.new {} = .ok CacheRun.defaultEngine ∧ (∀ a ∈ race, a.IsWritable) ∧
      (run CacheRun.defaultEngine (.start .documents) race).cache.column? "docs"
        ⟨[.field "a", .field "b"]⟩ = some ⟨⟨[.field "a", .field "b"]⟩, "vc_a_b", .text⟩ ∧
      (∃ column ∈ ((run CacheRun.defaultEngine (.start .documents) race).schemas "docs").columns,
        column.name = "vc_a_b" ∧ ∃ text, column.expression = some text ∧
          CacheRun.defaultEngine.sourcePath? text = some ⟨[.field "a", .field "b"]⟩) ∧
      (run CacheRun.defaultEngine (.start .documents) race).cache.column? "docs"
        ⟨[.field "a_b"]⟩ = none := by
  have hnew : Engine.new {} = .ok CacheRun.defaultEngine := rfl
  have hrace : ∀ a ∈ race, a.IsWritable := by decide
  have hcolumn : (run CacheRun.defaultEngine (.start .documents) race).cache.column? "docs"
      ⟨[.field "a", .field "b"]⟩ = some ⟨⟨[.field "a", .field "b"]⟩, "vc_a_b", .text⟩ := by
    decide +kernel
  refine ⟨hnew, hrace, hcolumn, (columns_true hnew .documents hrace).1 _ _ _ hcolumn, ?_⟩
  decide +kernel

end DocumentQuery.ProvisionRun
