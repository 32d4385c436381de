import DocumentQuery.Proofs.Cache.Run

/-!
# No update is lost

Whatever fetches finish in between and whatever they found, a cache keeps a
column that it knows until its table is dropped or a column of its path is
registered.

* `Event.affects`: the events that can change the column of a path;
* `column?_step`: what a step does to a column that is known;
* `column?_run`: what a whole run does to it;
* `fetches_run_done`: a fetch that is done stays done;
* `columns_kept`: registered columns, refused ones and fetches that fail.
-/

namespace DocumentQuery.CacheRun

variable {e : Engine} {st : State} {t : String} {p : Path} {c : VirtualColumn}

/-- Whether an event drops a table or registers a column for a path of it. -/
def Event.affects (table : String) (path : Path) (event : Event) : Prop :=
  event.drops table = true ∨ ∃ c, event = .registered table c ∧ c.path = path

/-- The actions that only look at the cache. -/
def Action.asks : Action → Bool
  | .look _ => true
  | .count _ => true
  | .ask _ => true
  | .reply .. => true
  | _ => false

theorem cache_step_asks (e : Engine) (st : State) {a : Action} (h : a.asks = true) :
    (step e st a).cache = st.cache := by
  cases a with
  | look table => rfl
  | count id =>
    rw [step]
    split <;> rfl
  | ask id =>
    rw [step]
    split <;> rfl
  | reply id reading =>
    rw [step]
    split
    · split <;> rfl
    · rfl
  | install | register | invalidate | clear => cases h

/-- The end of a load keeps every column that is known. -/
theorem column?_step_install (h : st.column? t p = some c) (id : Nat) :
    (step e st (.install id)).column? t p = some c := by
  rw [step]
  split
  · rename_i load columns _
    have hinstall := st.cache.column?_install load columns t p
    rw [State.column?] at h
    rw [h, Option.some_or, ite_self] at hinstall
    exact hinstall
  · exact h

/-- A step that does not drop the table keeps a column that is known, or puts in its
place one of the same path and type, which it registers. -/
theorem column?_step (h : st.column? t p = some c) {a : Action} (hinvalidate : a ≠ .invalidate t)
    (hclear : a ≠ .clear) :
    ∃ c', (step e st a).column? t p = some c' ∧ c'.affinity = c.affinity ∧
      (c' = c ∨ a = .register t c' ∧ c'.path = p ∧
        (step e st a).log = .registered t c' :: st.log) := by
  cases a with
  | look | count | ask | reply =>
    exact ⟨c, by rwa [State.column?, cache_step_asks e st rfl], rfl, .inl rfl⟩
  | install id => exact ⟨c, column?_step_install h id, rfl, .inl rfl⟩
  | register u d =>
    cases hr : st.cache.register u d with
    | error fault => exact ⟨c, by rwa [step_register_error hr], rfl, .inl rfl⟩
    | ok next =>
      rw [step_register_ok hr]
      have hcolumn : next.column? t p = _ := Cache.column?_register hr t p
      by_cases hreplaced : t = u ∧ p = d.path
      · obtain ⟨rfl, rfl⟩ := hreplaced
        rw [if_pos ⟨rfl, rfl⟩] at hcolumn
        exact ⟨d, hcolumn, ((Cache.register_eq_ok.mp hr).1 c h).symm, .inr ⟨rfl, rfl, rfl⟩⟩
      · rw [if_neg hreplaced] at hcolumn
        exact ⟨c, hcolumn.trans h, rfl, .inl rfl⟩
  | invalidate u =>
    have hne : t ≠ u := by
      rintro rfl
      exact hinvalidate rfl
    have hcolumn := st.cache.column?_invalidate u t p
    rw [if_neg hne] at hcolumn
    exact ⟨c, hcolumn.trans h, rfl, .inl rfl⟩
  | clear => exact absurd rfl hclear

/-- A step keeps a column that is known, or something is remembered that affects it. -/
theorem column?_step_or_affects (h : st.column? t p = some c) (a : Action) :
    (step e st a).column? t p = some c ∨
      ∃ event : Event, (step e st a).log = event :: st.log ∧ event.affects t p := by
  by_cases hinvalidate : a = .invalidate t
  · subst hinvalidate
    exact .inr ⟨.dropped t, rfl, .inl (beq_self_eq_true t)⟩
  · by_cases hclear : a = .clear
    · subst hclear
      exact .inr ⟨.droppedAll, rfl, .inl rfl⟩
    · obtain ⟨c', hc', _, rfl | ⟨_, hpath, hlog⟩⟩ := column?_step (e := e) h hinvalidate hclear
      · exact .inl hc'
      · exact .inr ⟨_, hlog, .inr ⟨c', rfl, hpath⟩⟩

/-! ## Whole runs -/

/-- A run keeps a column that is known, or something is remembered that affects it. -/
theorem column?_run (h : st.column? t p = some c) (actions : List Action) :
    ∃ events, (run e st actions).log = events ++ st.log ∧
      ((∃ event ∈ events, event.affects t p) ∨ (run e st actions).column? t p = some c) := by
  induction actions generalizing st with
  | nil => exact ⟨[], rfl, .inr h⟩
  | cons a actions ih =>
    rcases column?_step_or_affects (e := e) h a with hkept | ⟨event, hlog, haffects⟩
    · obtain ⟨later, hlater, hor⟩ := ih hkept
      obtain ⟨events, hevents⟩ := log_step e st a
      refine ⟨later ++ events, by rw [run_cons, hlater, hevents, List.append_assoc], ?_⟩
      exact hor.imp_left fun ⟨event, hmem, haffects⟩ =>
        ⟨event, List.mem_append_left _ hmem, haffects⟩
    · -- What happens after the event does not matter any more.
      obtain ⟨later, hlater⟩ := log_run e (step e st a) actions
      refine ⟨later ++ [event], ?_, .inl ⟨event, by simp, haffects⟩⟩
      rw [run_cons, hlater, hlog, List.append_assoc, List.singleton_append]

/-- Nothing happens to a fetch that is done. -/
theorem fetches_step_done {id : Nat} {result : Except Error ColumnMap}
    (h : st.fetches[id]? = some (.done result)) (a : Action) :
    (step e st a).fetches[id]? = some (.done result) := by
  have hother {j : Nat} {fetch : Fetch} (next : Fetch) (hj : st.fetches[j]? = some fetch)
      (hne : ∀ r, fetch ≠ .done r) : (st.advance j next).fetches[id]? = some (.done result) := by
    rw [State.fetches_advance_ne _ st next]
    · exact h
    · rintro rfl
      rw [h] at hj
      cases hj
      exact hne result rfl
  cases a with
  | look table =>
    obtain ⟨hlt, _⟩ := List.getElem?_eq_some_iff.mp h
    rw [step, List.getElem?_append_left hlt, h]
  | count j =>
    rw [step]
    split
    · rename_i hj
      exact hother _ hj fun _ heq => by cases heq
    · exact h
  | ask j =>
    rw [step]
    split
    · rename_i hj
      exact hother _ hj fun _ heq => by cases heq
    · exact h
  | reply j reading =>
    rw [step]
    split
    · rename_i hj
      split <;> exact hother _ hj fun _ heq => by cases heq
    · exact h
  | install j =>
    rw [step]
    split
    · rename_i hj
      exact hother _ hj fun _ heq => by cases heq
    · exact h
  | register table column =>
    rw [step]
    split <;> exact h
  | invalidate table => exact h
  | clear => exact h

theorem fetches_run_done {id : Nat} {result : Except Error ColumnMap}
    (h : st.fetches[id]? = some (.done result)) (actions : List Action) :
    (run e st actions).fetches[id]? = some (.done result) := by
  induction actions generalizing st with
  | nil => exact h
  | cons a actions ih => exact ih (fetches_step_done h a)

/-- In whatever state, and with whatever fetches under way, steps that do not drop a table
keep the columns that are known of it, and only the registration of a path gives it
another column, of the same type. A column that was registered is known until its table
is dropped or its path is registered again. A registration that is refused changes
nothing, and neither does a fetch that fails, whose columns are never installed. -/
theorem columns_kept (e : Engine) (st : State) :
    (∀ a t p c, a ≠ .invalidate t → a ≠ .clear → st.column? t p = some c →
      ∃ c', (step e st a).column? t p = some c' ∧ c'.affinity = c.affinity ∧
        (c' = c ∨ a = .register t c' ∧ c'.path = p ∧
          (step e st a).log = .registered t c' :: st.log)) ∧
    (∀ t c cache actions, st.cache.register t c = .ok cache →
      let registered := step e st (.register t c)
      ∃ events, (run e registered actions).log = events ++ registered.log ∧
        ((∃ event ∈ events, event.affects t c.path) ∨
          (run e registered actions).column? t c.path = some c)) ∧
    (∀ t c fault, st.cache.register t c = .error fault → step e st (.register t c) = st) ∧
    (∀ a, a.asks = true → (step e st a).cache = st.cache) ∧
    (∀ id load reading fault actions, st.fetches[id]? = some (.asked load) →
      reading.columns? load.table e.settings.loadTimeout = .error fault →
      let later := run e (step e st (.reply id reading)) actions
      (step e later (.install id)).cache = later.cache) := by
  refine ⟨fun a t p c hinvalidate hclear h => column?_step h hinvalidate hclear,
    fun t c cache actions hr => ?_, fun t c fault hr => step_register_error hr,
    fun a ha => cache_step_asks e st ha, fun id load reading fault actions hasked hr => ?_⟩
  · refine column?_run ?_ actions
    rw [step_register_ok hr]
    exact (Cache.column?_register hr t c.path).trans (if_pos ⟨rfl, rfl⟩)
  · have hdone : (step e st (.reply id reading)).fetches[id]? = some (.done (.error fault)) := by
      rw [step_reply_error hasked hr]
      exact State.fetches_advance hasked _
    exact congrArg State.cache (step_install_done (fetches_run_done hdone actions))

/-- A column for the path `$.name`. -/
def nameColumn : VirtualColumn := ⟨⟨[.field "name"]⟩, "vc_name", .text⟩

/-- A schema that has another column for the same path. -/
def otherName : Reading := ⟨5, .ok [⟨"other", "TEXT", true, some "json_extract(data, '$.name')"⟩]⟩

/-- A column is registered while the schema is read. -/
def registeredWhileAsked : State :=
  step defaultEngine (run defaultEngine .start [.look "docs", .count 0, .ask 0])
    (.register "docs" nameColumn)

theorem columns_kept_while_asked :
    ((run defaultEngine .start [.look "docs", .count 0, .ask 0]).cache.register "docs"
      nameColumn).toOption.isSome = true ∧
    (run defaultEngine registeredWhileAsked [.reply 0 otherName, .install 0]).column? "docs"
      ⟨[.field "name"]⟩ = some nameColumn := by
  refine ⟨rfl, ?_⟩
  obtain ⟨_, hregister, _⟩ :=
    columns_kept defaultEngine (run defaultEngine .start [.look "docs", .count 0, .ask 0])
  obtain ⟨events, hlog, hor⟩ := hregister "docs" nameColumn _ [.reply 0 otherName, .install 0] rfl
  refine hor.resolve_left ?_
  rintro ⟨event, hmem, haffects⟩
  have hevents : events = [.answered 0 "docs" _] := List.append_cancel_right hlog.symm
  rw [hevents, List.mem_singleton] at hmem
  subst hmem
  rcases haffects with hdrop | ⟨_, hregistered, _⟩
  · cases hdrop
  · cases hregistered

end DocumentQuery.CacheRun
