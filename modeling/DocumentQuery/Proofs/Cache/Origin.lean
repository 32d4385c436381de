import DocumentQuery.Proofs.Cache.Run

/-!
# Where known columns come from

A cache knows no column from before the last drop of its table: each was
registered since then, or reported by a read of the schema that began since
then. A read that began before a drop, of whatever table, adds nothing.

* `Origin`: how a column became known;
* `Begun`, `Fetch.IsSound`: what is remembered of a load under way;
* `IsSound`: the invariant, which each step keeps (`isSound_step`) and every run
  has (`isSound_run`);
* `columns_origin`: the columns that are known after a run, and the reads that
  began before a drop.
-/

namespace DocumentQuery.CacheRun

variable {e : Engine} {st : State} {t : String} {p : Path} {c : VirtualColumn} {id : Nat}
  {log before after : List Event} {event : Event} {load : Load}

/-- How a column for a path became known, by what happened, the latest first: it was
registered, or a read of the schema began and then reported it. -/
def Origin (e : Engine) (t : String) (p : Path) (c : VirtualColumn) (events : List Event) : Prop :=
  .registered t c ∈ events ∨
    ∃ id reported, [.answered id t reported, .asked id t].Sublist events ∧
      ∃ column ∈ reported, column.isHidden = true ∧ column.name = c.name ∧
        ∃ text, column.expression = some text ∧ e.sourcePath? text = some p

theorem Origin.mono (h : Origin e t p c before) (hsub : before.Sublist after) :
    Origin e t p c after := by
  rcases h with h | ⟨id, reported, h, hcolumn⟩
  · exact .inl (hsub.mem h)
  · exact .inr ⟨id, reported, h.trans hsub, hcolumn⟩

/-- A column of the map of reported columns was reported. -/
theorem exists_reported {reported : List Column}
    (h : (ColumnMap.ofReported e.sourcePath? reported).get? p = some c) :
    ∃ column ∈ reported, column.isHidden = true ∧ column.name = c.name ∧
      ∃ text, column.expression = some text ∧ e.sourcePath? text = some p := by
  have hpath := ColumnMap.path_of_get? h
  rw [ColumnMap.get?_ofReported] at h
  obtain ⟨column, hmem, hvirtual⟩ := List.mem_filterMap.mp (List.mem_of_find?_eq_some h)
  obtain ⟨hhidden, text, htext, hsource, hname, _⟩ := ColumnMap.virtual?_eq_some.mp hvirtual
  exact ⟨column, hmem, hhidden, hname, text, htext, by rw [hsource, hpath]⟩

/-! ## Events since a drop -/

theorem Event.isDrop_of_drops (h : event.drops t = true) : event.isDrop = true := by
  cases event with
  | dropped | droppedAll => rfl
  | registered | asked | answered => cases h

/-- Events that drop nothing come on top of those since the last drop. -/
theorem Event.since_append (h : dropCount after = 0) (t : String) (before : List Event) :
    since t (after ++ before) = after ++ since t before := by
  refine List.takeWhile_append_of_pos fun event hmem => ?_
  have hdrop := List.countP_eq_zero.mp h event hmem
  rw [Bool.not_eq_true', Bool.eq_false_iff]
  exact fun hdrops => hdrop (isDrop_of_drops hdrops)

theorem Event.dropCount_append (after before : List Event) :
    dropCount (after ++ before) = dropCount after + dropCount before :=
  List.countP_append

/-! ## Loads under way -/

/-- Whether a read of a schema begins with an event. -/
def Event.isAsk : Event → Bool
  | .asked .. => true
  | _ => false

theorem Event.ne_asked (h : event.isAsk = false) (id : Nat) (t : String) : event ≠ .asked id t := by
  rintro rfl
  cases h

/-- The read of a fetch has begun in one of these events. -/
def IsAsked (id : Nat) (events : List Event) : Prop := ∃ t, .asked id t ∈ events

/-- The drops were counted for a load before the events `after`, and its read has not
begun earlier. -/
def Begun (id : Nat) (load : Load) (log after : List Event) : Prop :=
  ∃ before, log = after ++ before ∧ load.drops = UInt64.ofNat (Event.dropCount before) ∧
    ¬ IsAsked id before

/-- What is remembered of a fetch. -/
def Fetch.IsSound (e : Engine) (log : List Event) (id : Nat) : Fetch → Prop
  | .missed _ => ¬ IsAsked id log
  | .counted load => ¬ IsAsked id log ∧ ∃ after, Begun id load log after
  | .asked load => ∃ after, Begun id load log after ∧ .asked id load.table ∈ after
  | .answered load columns => ∃ after, Begun id load log after ∧
      ∃ reported, [.answered id load.table reported, .asked id load.table].Sublist after ∧
        columns = .ofReported e.sourcePath? reported
  | .done _ => True

theorem Begun.cons (h : Begun id load log after) (event : Event) :
    Begun id load (event :: log) (event :: after) := by
  obtain ⟨before, rfl, hdrops, hasked⟩ := h
  exact ⟨before, rfl, hdrops, hasked⟩

theorem not_isAsked_cons (h : ¬ IsAsked id log) (hne : ∀ t, event ≠ .asked id t) :
    ¬ IsAsked id (event :: log) := by
  rintro ⟨t, hmem⟩
  rcases List.mem_cons.mp hmem with heq | hmem
  · exact hne t heq.symm
  · exact h ⟨t, hmem⟩

/-- What is remembered of a fetch stays so, unless its read begins. -/
theorem Fetch.IsSound.cons {fetch : Fetch} (h : fetch.IsSound e log id)
    (hne : ∀ t, event ≠ .asked id t) : fetch.IsSound e (event :: log) id := by
  cases fetch with
  | missed => exact not_isAsked_cons h hne
  | counted =>
    obtain ⟨hasked, after, hbegun⟩ := h
    exact ⟨not_isAsked_cons hasked hne, _, hbegun.cons event⟩
  | asked =>
    obtain ⟨after, hbegun, hmem⟩ := h
    exact ⟨_, hbegun.cons event, List.mem_cons_of_mem _ hmem⟩
  | answered =>
    obtain ⟨after, hbegun, reported, hsub, hcolumns⟩ := h
    exact ⟨_, hbegun.cons event, reported, hsub.cons _, hcolumns⟩
  | done => trivial

/-- If the drops are fewer than a counter of 64 bits can tell apart, a load that counted as
many as now did so after the last of them. -/
theorem Begun.dropCount_eq_zero (h : Begun id load log after)
    (hbound : Event.dropCount log < UInt64.size)
    (hdrops : load.drops = UInt64.ofNat (Event.dropCount log)) : Event.dropCount after = 0 := by
  obtain ⟨before, rfl, hbefore, _⟩ := h
  rw [Event.dropCount_append] at hbound hdrops
  rw [hbefore] at hdrops
  have hsmaller : Event.dropCount before < UInt64.size :=
    Nat.lt_of_le_of_lt (Nat.le_add_left ..) hbound
  have hnat := congrArg UInt64.toNat hdrops
  rw [UInt64.toNat_ofNat_of_lt' hsmaller, UInt64.toNat_ofNat_of_lt' hbound] at hnat
  omega

/-! ## The invariant -/

/-- What is remembered tells the number of drops, how far each fetch has come and where each
known column comes from. -/
structure IsSound (e : Engine) (st : State) : Prop where
  drops : st.cache.drops = UInt64.ofNat (Event.dropCount st.log)
  begun : ∀ id, IsAsked id st.log → id < st.fetches.length
  fetches : ∀ id (fetch : Fetch), st.fetches[id]? = some fetch → fetch.IsSound e st.log id
  columns : ∀ t p c, st.column? t p = some c → Origin e t p c (Event.since t st.log)

theorem isSound_start (e : Engine) : IsSound e .start where
  drops := rfl
  begun _ h := nomatch h
  fetches _ _ h := nomatch h
  columns _ _ _ h := nomatch h

/-- The other fetches, and the one that has come further. -/
theorem isSound_advance {next : Fetch}
    (h : ∀ j, j ≠ id → ∀ fetch : Fetch, st.fetches[j]? = some fetch → fetch.IsSound e log j)
    (hnext : next.IsSound e log id) :
    ∀ j (fetch : Fetch), (st.advance id next).fetches[j]? = some fetch → fetch.IsSound e log j := by
  intro j fetch hj
  by_cases hne : j = id
  · subst hne
    rw [State.advance, List.getElem?_set] at hj
    split at hj
    · split at hj
      · cases hj
        exact hnext
      · cases hj
    · contradiction
  · rw [State.fetches_advance_ne hne] at hj
    exact h j hne fetch hj

/-- A fetch comes further without anything to be remembered. -/
theorem IsSound.advance (h : IsSound e st) {next : Fetch} (hnext : next.IsSound e st.log id) :
    IsSound e (st.advance id next) where
  drops := h.drops
  begun j hj := by
    rw [State.advance, List.length_set]
    exact h.begun j hj
  fetches := isSound_advance (fun j _ => h.fetches j) hnext
  columns := h.columns

/-- Something else is remembered than the beginning of a read. -/
theorem IsSound.fetches_note (h : IsSound e st) (hask : event.isAsk = false) :
    ∀ id (fetch : Fetch), st.fetches[id]? = some fetch → fetch.IsSound e (event :: st.log) id :=
  fun id fetch hfetch => (h.fetches id fetch hfetch).cons (Event.ne_asked hask id)

theorem IsSound.begun_note (h : IsSound e st) (hask : event.isAsk = false) :
    ∀ id, IsAsked id (event :: st.log) → id < st.fetches.length := by
  rintro id ⟨t, hmem⟩
  rcases List.mem_cons.mp hmem with heq | hmem
  · exact absurd heq.symm (Event.ne_asked hask id t)
  · exact h.begun id ⟨t, hmem⟩

theorem IsSound.drops_note (h : IsSound e st) (hdrop : event.isDrop = true) :
    st.cache.drops + 1 = UInt64.ofNat (Event.dropCount (event :: st.log)) := by
  have hcount : Event.dropCount (event :: st.log) = Event.dropCount st.log + 1 :=
    List.countP_cons_of_pos hdrop
  rw [h.drops, hcount, UInt64.ofNat_add]
  rfl

theorem isSound_look (h : IsSound e st) (table : String) : IsSound e (step e st (.look table)) where
  drops := h.drops
  begun id hid := by
    have := h.begun id hid
    simp only [step, List.length_append]
    omega
  fetches id fetch hfetch := by
    rw [step, List.getElem?_append] at hfetch
    split at hfetch
    · exact h.fetches id fetch hfetch
    · rename_i hge
      have hnew : fetch = .begin st.cache table :=
        List.mem_singleton.mp (List.mem_of_getElem? hfetch)
      rw [hnew, Fetch.begin]
      split
      · trivial
      · exact fun hasked => hge (h.begun id hasked)
  columns := h.columns

theorem isSound_count (h : IsSound e st) (id : Nat) : IsSound e (step e st (.count id)) := by
  rw [step]
  split
  · rename_i table hmissed
    have hasked : ¬ IsAsked id st.log := h.fetches id _ hmissed
    exact h.advance ⟨hasked, [], st.log, rfl, h.drops, hasked⟩
  · exact h

theorem isSound_ask (h : IsSound e st) (id : Nat) : IsSound e (step e st (.ask id)) := by
  rw [step]
  split
  · rename_i load hcounted
    obtain ⟨hasked, after, hbegun⟩ := h.fetches id _ hcounted
    refine ⟨h.drops, ?_, isSound_advance (fun j hne fetch hj => ?_) ?_, fun t p c hc => ?_⟩
    · rintro j ⟨t, hmem⟩
      rw [State.note, State.advance, List.length_set]
      rcases List.mem_cons.mp hmem with heq | hmem
      · cases heq
        exact (List.getElem?_eq_some_iff.mp hcounted).1
      · exact h.begun j ⟨t, hmem⟩
    · exact (h.fetches j fetch hj).cons fun t heq => hne (by cases heq; rfl)
    · exact ⟨_, hbegun.cons _, List.mem_cons_self⟩
    · rw [State.note, Event.since_cons rfl]
      exact (h.columns t p c hc).mono (List.sublist_cons_self _ _)
  · exact h

theorem isSound_reply (h : IsSound e st) (id : Nat) (reading : Reading) :
    IsSound e (step e st (.reply id reading)) := by
  rw [step]
  split
  · rename_i load hasked
    obtain ⟨after, hbegun, hmem⟩ := h.fetches id _ hasked
    split
    · exact h.advance trivial
    · rename_i reported _
      refine ⟨h.drops, ?_, isSound_advance (fun j _ => h.fetches_note rfl j) ?_, fun t p c hc => ?_⟩
      · rw [State.note, State.advance, List.length_set]
        exact h.begun_note rfl
      · exact ⟨_, hbegun.cons _, reported, (List.singleton_sublist.mpr hmem).cons_cons _, rfl⟩
      · rw [State.note, Event.since_cons rfl]
        exact (h.columns t p c hc).mono (List.sublist_cons_self _ _)
  · exact h

theorem isSound_install (h : IsSound e st) (hbound : Event.dropCount st.log < UInt64.size)
    (id : Nat) : IsSound e (step e st (.install id)) := by
  rw [step]
  split
  · rename_i load columns hanswered
    obtain ⟨after, hbegun, reported, hsub, rfl⟩ := h.fetches id _ hanswered
    have hadvance (result : Except Error ColumnMap) : IsSound e (st.advance id (.done result)) :=
      h.advance trivial
    refine ⟨(Cache.drops_install ..).trans h.drops, (hadvance _).begun, (hadvance _).fetches,
      fun t p c hc => ?_⟩
    have hinstall := st.cache.column?_install load (.ofReported e.sourcePath? reported) t p
    rw [State.column?, hinstall] at hc
    split at hc
    · rename_i hcurrent
      obtain ⟨hdrops, rfl⟩ := hcurrent
      rcases Option.or_eq_some_iff.mp hc with hknown | ⟨_, hloaded⟩
      · exact h.columns _ p c hknown
      · -- No drop came after the drops were counted, so the whole read came after the last.
        have hzero := hbegun.dropCount_eq_zero hbound (hdrops.symm.trans h.drops)
        obtain ⟨before, hlog, _⟩ := hbegun
        refine .inr ⟨id, reported, ?_, exists_reported hloaded⟩
        have hsince : Event.since load.table st.log = after ++ Event.since load.table before := by
          rw [hlog, Event.since_append hzero]
        exact hsince ▸ hsub.trans (List.sublist_append_left ..)
    · exact h.columns t p c hc
  · exact h

theorem isSound_register (h : IsSound e st) (table : String) (column : VirtualColumn) :
    IsSound e (step e st (.register table column)) := by
  rw [step]
  split
  · exact h
  · rename_i cache hregister
    refine ⟨(Cache.drops_register hregister).trans h.drops, h.begun_note rfl, h.fetches_note rfl,
      fun t p c hc => ?_⟩
    have hcolumn := Cache.column?_register hregister t p
    rw [State.column?, State.note, hcolumn] at hc
    rw [State.note, Event.since_cons rfl]
    split at hc
    · rename_i hnew
      obtain ⟨rfl, rfl⟩ := hnew
      cases hc
      exact .inl List.mem_cons_self
    · exact (h.columns t p c hc).mono (List.sublist_cons_self _ _)

theorem isSound_invalidate (h : IsSound e st) (table : String) :
    IsSound e (step e st (.invalidate table)) := by
  refine ⟨h.drops_note rfl, h.begun_note rfl, h.fetches_note rfl, fun t p c hc => ?_⟩
  have hcolumn := st.cache.column?_invalidate table t p
  rw [step, State.column?, State.note, hcolumn] at hc
  split at hc
  · cases hc
  · rename_i ht
    rw [step, State.note, Event.since_cons (by simp [Event.drops, Ne.symm ht])]
    exact (h.columns t p c hc).mono (List.sublist_cons_self _ _)

theorem isSound_clear (h : IsSound e st) : IsSound e (step e st .clear) := by
  exact ⟨h.drops_note rfl, h.begun_note rfl, h.fetches_note rfl, fun t p c hc => nomatch hc⟩

/-- Each step keeps the invariant, as long as the drops can be told apart. -/
theorem isSound_step (h : IsSound e st) (hbound : Event.dropCount st.log < UInt64.size)
    (a : Action) : IsSound e (step e st a) := by
  cases a with
  | look table => exact isSound_look h table
  | count id => exact isSound_count h id
  | ask id => exact isSound_ask h id
  | reply id reading => exact isSound_reply h id reading
  | install id => exact isSound_install h hbound id
  | register table column => exact isSound_register h table column
  | invalidate table => exact isSound_invalidate h table
  | clear => exact isSound_clear h

theorem isSound_run (h : IsSound e st) {actions : List Action}
    (hbound : Event.dropCount (run e st actions).log < UInt64.size) :
    IsSound e (run e st actions) := by
  induction actions generalizing st with
  | nil => exact h
  | cons a actions ih =>
    refine ih (isSound_step h ?_ a) hbound
    obtain ⟨events, hlog⟩ := log_run e st (a :: actions)
    rw [hlog, Event.dropCount_append] at hbound
    omega

/-! ## The end of a stale load -/

theorem mem_of_pair_sublist {α : Type} {a b : α} {xs ys : List α} (h : [a, b].Sublist (xs ++ ys))
    (hb : b ∉ ys) : a ∈ xs := by
  obtain ⟨us, vs, heq, hus, hvs⟩ := List.sublist_append_iff.mp h
  cases us with
  | nil =>
    rw [List.nil_append] at heq
    exact absurd (hvs.mem (by simp [← heq])) hb
  | cons u us =>
    rw [List.cons_append, List.cons_eq_cons] at heq
    exact hus.mem (by simp [heq.1])

/-- A load whose read began before a drop ends without any change to the cache. -/
theorem IsSound.cache_step_install (h : IsSound e st)
    (hbound : Event.dropCount st.log < UInt64.size) (hdrop : event.isDrop = true)
    (hstale : [event, .asked id t].Sublist st.log) :
    (step e st (.install id)).cache = st.cache := by
  rw [step]
  split
  · rename_i load columns hanswered
    obtain ⟨after, hbegun, _⟩ := h.fetches id _ hanswered
    refine congrArg Prod.snd (Cache.install_of_ne (fun hdrops => ?_) columns)
    -- The drop came after the read began, so after the drops were counted.
    have hzero := hbegun.dropCount_eq_zero hbound (hdrops.symm.trans h.drops)
    obtain ⟨before, hlog, _, hasked⟩ := hbegun
    rw [hlog] at hstale
    have hmem := mem_of_pair_sublist hstale fun hmem => hasked ⟨t, hmem⟩
    exact List.countP_eq_zero.mp hzero event hmem hdrop
  · rfl

/-- A column that is known after a run is known under its own path, and was registered or
reported since its table was dropped last, by a read that began since then. And a read
that began before any drop adds nothing to the cache when it ends. -/
theorem columns_origin (e : Engine) (actions : List Action)
    (hbound : Event.dropCount (run e .start actions).log < UInt64.size) :
    (∀ t p c, (run e .start actions).column? t p = some c →
      c.path = p ∧ Origin e t p c (Event.since t (run e .start actions).log)) ∧
    ∀ event id t, event.isDrop = true →
      [event, .asked id t].Sublist (run e .start actions).log →
      (step e (run e .start actions) (.install id)).cache = (run e .start actions).cache := by
  have h := isSound_run (isSound_start e) hbound
  exact ⟨fun t p c hc => ⟨Cache.path_of_column? hc, h.columns t p c hc⟩,
    fun event id t hdrop hstale => h.cache_step_install hbound hdrop hstale⟩

/-- Two reads of one schema, the first of which began before a drop. -/
def readsAroundDrop : List Action :=
  [.look "docs", .count 0, .ask 0, .invalidate "docs", .look "docs", .count 1, .ask 1,
    .reply 0 ⟨5, .ok [⟨"old", "TEXT", true, some "json_extract(data, '$.name')"⟩]⟩,
    .reply 1 ⟨5, .ok [⟨"new", "TEXT", true, some "json_extract(data, '$.name')"⟩]⟩, .install 1]

theorem columns_origin_around_drop :
    Event.dropCount (run defaultEngine .start readsAroundDrop).log < UInt64.size ∧
    (run defaultEngine .start readsAroundDrop).column? "docs" ⟨[.field "name"]⟩ =
      some ⟨⟨[.field "name"]⟩, "new", .text⟩ ∧
    Origin defaultEngine "docs" ⟨[.field "name"]⟩ ⟨⟨[.field "name"]⟩, "new", .text⟩
      (Event.since "docs" (run defaultEngine .start readsAroundDrop).log) ∧
    (step defaultEngine (run defaultEngine .start readsAroundDrop) (.install 0)).cache =
      (run defaultEngine .start readsAroundDrop).cache := by
  have hbound : Event.dropCount (run defaultEngine .start readsAroundDrop).log < UInt64.size := by
    decide +kernel
  have hcolumn : (run defaultEngine .start readsAroundDrop).column? "docs" ⟨[.field "name"]⟩ =
      some ⟨⟨[.field "name"]⟩, "new", .text⟩ := by
    decide +kernel
  obtain ⟨horigin, hstale⟩ := columns_origin defaultEngine readsAroundDrop hbound
  refine ⟨hbound, hcolumn, (horigin _ _ _ hcolumn).2, hstale (.dropped "docs") 0 "docs" rfl ?_⟩
  decide +kernel

end DocumentQuery.CacheRun
