import DocumentQuery.Proofs.Cache.Run
import Mathlib.Data.List.Nodup

/-!
# Registration in any order

Columns of a table are registered one after another, and none may change the
type of a path that is known. Whether all of them can be registered depends on
their types alone, and if no two have the same path, what is known afterwards
does not depend on their order either.

* `Cache.registerAll`: columns registered one after another;
* `Cache.Accepts`, `Cache.exists_registerAll`: when none of them is refused;
* `Cache.column?_of_registerAll`, `Cache.column?_registerAll_of_notMem`,
  `Cache.get?_registerAll_of_ne`: what is known then;
* `ColumnMap.perm_of_get?`, `Cache.Alike`: caches that know the same;
* `Cache.alike_of_perm`: orders make no difference;
* `CacheRun.run_registers`: the registrations as steps that others take part in;
* `CacheRun.registers_in_any_order`: all of it, beside fetches that are under way or done.
-/

namespace DocumentQuery

/-- Two maps that give the same for every path have the same columns. -/
theorem ColumnMap.perm_of_get? {m n : ColumnMap} (h : ∀ p, m.get? p = n.get? p) :
    m.columns.Perm n.columns := by
  refine (List.perm_ext_iff_of_nodup (List.Nodup.of_map _ m.distinct)
    (List.Nodup.of_map _ n.distinct)).mpr fun c => ?_
  constructor
  · exact fun hc => mem_of_get? ((h c.path).symm.trans (get?_of_mem hc))
  · exact fun hc => mem_of_get? ((h c.path).trans (get?_of_mem hc))

namespace Cache

variable {c next other : Cache} {t u : String} {p : Path} {column : VirtualColumn}
  {cs ds : List VirtualColumn}

/-- The cache with columns of a table registered one after another, unless one is refused. -/
def registerAll (c : Cache) (table : String) (columns : List VirtualColumn) : Except Error Cache :=
  columns.foldlM (fun c column => c.register table column) c

theorem registerAll_cons :
    c.registerAll t (column :: cs) = c.register t column >>= fun next => next.registerAll t cs :=
  List.foldlM_cons

/-! ## Refusals -/

/-- No two of the columns have the same path and different types, nor does one of them
and a column that is known. -/
structure Accepts (c : Cache) (table : String) (columns : List VirtualColumn) : Prop where
  known : ∀ column ∈ columns, ∀ d, c.column? table column.path = some d →
    d.affinity = column.affinity
  listed : ∀ a ∈ columns, ∀ b ∈ columns, a.path = b.path → a.affinity = b.affinity

theorem Accepts.perm (h : c.Accepts t cs) (hperm : ds.Perm cs) : c.Accepts t ds where
  known column hmem := h.known column (hperm.mem_iff.mp hmem)
  listed a ha b hb := h.listed a (hperm.mem_iff.mp ha) b (hperm.mem_iff.mp hb)

/-- With one column registered, the others are accepted as they were beside it. -/
theorem accepts_cons (h : c.register t column = .ok next) :
    c.Accepts t (column :: cs) ↔ next.Accepts t cs := by
  have hknown : ∀ d, c.column? t column.path = some d → d.affinity = column.affinity :=
    (register_eq_ok.mp h).1
  have hnew : next.column? t column.path = some column :=
    (column?_register h t column.path).trans (if_pos ⟨rfl, rfl⟩)
  have hkept {p : Path} (hp : p ≠ column.path) : next.column? t p = c.column? t p :=
    (column?_register h t p).trans (if_neg fun heq => hp heq.2)
  constructor
  · intro haccepts
    refine ⟨fun a ha d hd => ?_, fun a ha b hb =>
      haccepts.listed a (List.mem_cons_of_mem _ ha) b (List.mem_cons_of_mem _ hb)⟩
    by_cases hpath : a.path = column.path
    · rw [hpath, hnew] at hd
      cases hd
      exact haccepts.listed _ List.mem_cons_self a (List.mem_cons_of_mem _ ha) hpath.symm
    · rw [hkept hpath] at hd
      exact haccepts.known a (List.mem_cons_of_mem _ ha) d hd
  · intro haccepts
    have hnewly : ∀ a ∈ cs, a.path = column.path → column.affinity = a.affinity :=
      fun a ha hpath => haccepts.known a ha column (by rw [hpath, hnew])
    constructor
    · refine List.forall_mem_cons.mpr ⟨hknown, fun a ha d hd => ?_⟩
      by_cases hpath : a.path = column.path
      · rw [hpath] at hd
        exact (hknown d hd).trans (hnewly a ha hpath)
      · exact haccepts.known a ha d ((hkept hpath).trans hd)
    · refine List.forall_mem_cons.mpr ⟨List.forall_mem_cons.mpr ⟨fun _ => rfl, ?_⟩, fun a ha => ?_⟩
      · exact fun b hb hpath => hnewly b hb hpath.symm
      · exact List.forall_mem_cons.mpr
          ⟨fun hpath => (hnewly a ha hpath).symm, haccepts.listed a ha⟩

/-- Whether one of the columns is refused depends on their types alone. -/
theorem exists_registerAll : (∃ next, c.registerAll t cs = .ok next) ↔ c.Accepts t cs := by
  induction cs generalizing c with
  | nil => exact ⟨fun _ => ⟨List.forall_mem_nil _, List.forall_mem_nil _⟩, fun _ => ⟨c, rfl⟩⟩
  | cons column cs ih =>
    rw [registerAll_cons]
    cases hr : c.register t column with
    | ok next => exact ih.trans (accepts_cons hr).symm
    | error fault =>
      refine ⟨nofun, fun haccepts => ?_⟩
      have hok : c.register t column = .ok _ :=
        register_eq_ok.mpr ⟨haccepts.known column List.mem_cons_self, rfl⟩
      cases hr.symm.trans hok

/-! ## What is known afterwards -/

/-- What each registration keeps, the registrations one after another keep. -/
theorem registerAll_induction {P : Cache → Prop} (h : c.registerAll t cs = .ok next) (hc : P c)
    (hstep : ∀ column ∈ cs, ∀ a b, P a → a.register t column = .ok b → P b) : P next := by
  induction cs generalizing c with
  | nil =>
    cases h
    exact hc
  | cons column cs ih =>
    obtain ⟨mid, hr, h⟩ := bind_eq_ok.mp (registerAll_cons.symm.trans h)
    exact ih h (hstep column List.mem_cons_self c mid hc hr) fun d hd =>
      hstep d (List.mem_cons_of_mem _ hd)

theorem drops_registerAll (h : c.registerAll t cs = .ok next) : next.drops = c.drops :=
  registerAll_induction (P := fun a => a.drops = c.drops) h rfl fun _ _ _ _ ha hr =>
    (drops_register hr).trans ha

/-- Other tables stay as they are. -/
theorem get?_registerAll_of_ne (h : c.registerAll t cs = .ok next) (hu : u ≠ t) :
    next.get? u = c.get? u :=
  registerAll_induction (P := fun a => a.get? u = c.get? u) h rfl fun _ _ _ _ ha hr =>
    (get?_register_of_ne hr hu).trans ha

/-- So do the other paths of the table. -/
theorem column?_registerAll_of_notMem (h : c.registerAll t cs = .ok next)
    (hp : p ∉ cs.map VirtualColumn.path) : next.column? t p = c.column? t p := by
  refine registerAll_induction (P := fun a => a.column? t p = c.column? t p) h rfl
    fun d hd a b ha hr => ?_
  have hpath : ¬ (t = t ∧ p = d.path) := fun heq => hp (List.mem_map.mpr ⟨d, hd, heq.2.symm⟩)
  rw [column?_register hr, if_neg hpath, ha]

/-- If no two have the same path, each column is what is known of its path. -/
theorem column?_of_registerAll (h : c.registerAll t cs = .ok next)
    (hdistinct : (cs.map VirtualColumn.path).Nodup) :
    ∀ column ∈ cs, next.column? t column.path = some column := by
  induction cs generalizing c with
  | nil => exact List.forall_mem_nil _
  | cons column cs ih =>
    obtain ⟨mid, hr, h⟩ := bind_eq_ok.mp (registerAll_cons.symm.trans h)
    rw [List.map_cons, List.nodup_cons] at hdistinct
    refine List.forall_mem_cons.mpr ⟨?_, ih h hdistinct.2⟩
    rw [column?_registerAll_of_notMem h hdistinct.1, column?_register hr, if_pos ⟨rfl, rfl⟩]

/-- A table is known once a column of it is registered. -/
theorem isSome_get?_registerAll (h : c.registerAll t cs = .ok next) :
    (next.get? t).isSome = ((c.get? t).isSome || !cs.isEmpty) := by
  induction cs generalizing c with
  | nil =>
    cases h
    exact (Bool.or_false _).symm
  | cons column cs ih =>
    obtain ⟨mid, hr, h⟩ := bind_eq_ok.mp (registerAll_cons.symm.trans h)
    obtain ⟨_, rfl⟩ := register_eq_ok.mp hr
    rw [ih h, get?_put, if_pos rfl]
    exact (Bool.or_true _).symm

/-! ## Other orders -/

/-- Two caches that know the same columns of the same tables. -/
def Alike (a b : Cache) : Prop :=
  a.drops = b.drops ∧
    ∀ u, Option.Rel (fun m n => m.columns.Perm n.columns) (a.get? u) (b.get? u)

theorem Alike.of_column? (hdrops : c.drops = next.drops)
    (hknown : ∀ u, (c.get? u).isSome = (next.get? u).isSome)
    (hcolumn : ∀ u p, c.column? u p = next.column? u p) : c.Alike next := by
  refine ⟨hdrops, fun u => ?_⟩
  have hboth := hknown u
  have hpath := hcolumn u
  simp only [column?] at hpath
  cases hm : c.get? u with
  | none =>
    cases hn : next.get? u with
    | none => exact .none
    | some n =>
      rw [hm, hn] at hboth
      cases hboth
  | some m =>
    cases hn : next.get? u with
    | none =>
      rw [hm, hn] at hboth
      cases hboth
    | some n =>
      rw [hm, hn] at hpath
      exact .some (ColumnMap.perm_of_get? hpath)

/-- Columns of different paths can change places. -/
theorem alike_of_perm (h : c.registerAll t cs = .ok next) (h' : c.registerAll t ds = .ok other)
    (hperm : ds.Perm cs) (hdistinct : (cs.map VirtualColumn.path).Nodup) : next.Alike other := by
  have hdistinct' : (ds.map VirtualColumn.path).Nodup :=
    (hperm.map VirtualColumn.path).nodup_iff.mpr hdistinct
  have hother : ∀ u, u ≠ t → next.get? u = other.get? u := fun u hu =>
    (get?_registerAll_of_ne h hu).trans (get?_registerAll_of_ne h' hu).symm
  refine .of_column? ((drops_registerAll h).trans (drops_registerAll h').symm) (fun u => ?_)
    fun u p => ?_
  · by_cases hu : u = t
    · rw [hu, isSome_get?_registerAll h, isSome_get?_registerAll h', hperm.isEmpty_eq]
    · rw [hother u hu]
  · by_cases hu : u = t
    · subst hu
      by_cases hp : p ∈ cs.map VirtualColumn.path
      · obtain ⟨column, hmem, rfl⟩ := List.mem_map.mp hp
        rw [column?_of_registerAll h hdistinct column hmem,
          column?_of_registerAll h' hdistinct' column (hperm.mem_iff.mpr hmem)]
      · have hp' : p ∉ ds.map VirtualColumn.path := fun hmem =>
          hp ((hperm.map VirtualColumn.path).mem_iff.mp hmem)
        rw [column?_registerAll_of_notMem h hp, column?_registerAll_of_notMem h' hp']
    · rw [column?, column?, hother u hu]

end Cache

namespace CacheRun

variable {e : Engine} {st : State} {t u : String} {next : Cache} {cs : List VirtualColumn}

/-! ## Beside fetches -/

/-- Registrations of a table change neither what the callers of fetches have nor how far
the other fetches have come, nor any other table. -/
theorem run_registers (e : Engine) (st : State) (t : String) (cs : List VirtualColumn) :
    (run e st (cs.map (.register t))).fetches = st.fetches ∧
      ∀ u, u ≠ t → (run e st (cs.map (.register t))).cache.get? u = st.cache.get? u := by
  induction cs generalizing st with
  | nil => exact ⟨rfl, fun _ _ => rfl⟩
  | cons column cs ih =>
    rw [List.map_cons, run_cons]
    cases hr : st.cache.register t column with
    | error fault =>
      rw [step_register_error hr]
      exact ih st
    | ok next =>
      rw [step_register_ok hr]
      obtain ⟨hfetches, hother⟩ := ih ({ st with cache := next }.note (.registered t column))
      exact ⟨hfetches, fun u hu => (hother u hu).trans (Cache.get?_register_of_ne hr hu)⟩

/-- If none is refused, the steps give the cache with all of them. -/
theorem cache_run_registers (h : st.cache.registerAll t cs = .ok next) :
    (run e st (cs.map (.register t))).cache = next := by
  induction cs generalizing st with
  | nil =>
    cases h
    rfl
  | cons column cs ih =>
    obtain ⟨mid, hr, h⟩ := bind_eq_ok.mp (Cache.registerAll_cons.symm.trans h)
    rw [List.map_cons, run_cons, step_register_ok hr]
    exact ih h

/-- Whether columns of a table can be registered one after another does not depend on their
order, only on the types of their paths among themselves and in the cache. If it can be
done and no two have the same path, every order leaves the table with the same columns:
those registered, and for every other path what was known before. What callers of fetches
were given stays as it is, and so does every other table. -/
theorem registers_in_any_order (e : Engine) (st : State) (t : String) (cs : List VirtualColumn) :
    ((∃ ds, ds.Perm cs ∧ ∃ next, st.cache.registerAll t ds = .ok next) ↔
      st.cache.Accepts t cs) ∧
    ((∀ ds, ds.Perm cs → ∃ next, st.cache.registerAll t ds = .ok next) ↔
      st.cache.Accepts t cs) ∧
    (∀ next, st.cache.registerAll t cs = .ok next → (cs.map VirtualColumn.path).Nodup →
      (∀ ds, ds.Perm cs → ∃ other, st.cache.registerAll t ds = .ok other ∧ next.Alike other) ∧
      (∀ column ∈ cs, next.column? t column.path = some column) ∧
      (∀ p, p ∉ cs.map VirtualColumn.path → next.column? t p = st.cache.column? t p) ∧
      (run e st (cs.map (.register t))).cache = next) ∧
    (run e st (cs.map (.register t))).fetches = st.fetches ∧
    ∀ u, u ≠ t → (run e st (cs.map (.register t))).cache.get? u = st.cache.get? u := by
  have hperm {ds : List VirtualColumn} (h : st.cache.Accepts t cs) (hds : ds.Perm cs) :
      ∃ next, st.cache.registerAll t ds = .ok next :=
    Cache.exists_registerAll.mpr (h.perm hds)
  refine ⟨⟨?_, fun h => ⟨cs, .refl _, hperm h (.refl _)⟩⟩,
    ⟨fun h => Cache.exists_registerAll.mp (h cs (.refl _)), fun h ds hds => hperm h hds⟩,
    fun next h hdistinct => ⟨fun ds hds => ?_, Cache.column?_of_registerAll h hdistinct,
      fun p hp => Cache.column?_registerAll_of_notMem h hp, cache_run_registers h⟩,
    run_registers e st t cs⟩
  · rintro ⟨ds, hds, h⟩
    exact (Cache.exists_registerAll.mp h).perm hds.symm
  · obtain ⟨other, h'⟩ := hperm (Cache.exists_registerAll.mp ⟨next, h⟩) hds
    exact ⟨other, h', Cache.alike_of_perm h h' hds hdistinct⟩

/-- A caller was given the columns of a table, of which one was registered. -/
def nameGiven : State :=
  run defaultEngine .start [.register "docs" ⟨⟨[.field "name"]⟩, "vc_name", .text⟩, .look "docs"]

/-- A column for another path, and another one for the path that is known. -/
def priceAndName : List VirtualColumn :=
  [⟨⟨[.field "price"]⟩, "vc_price", .real⟩, ⟨⟨[.field "name"]⟩, "vc_name2", .text⟩]

theorem registers_in_any_order_reversed :
    (priceAndName.map VirtualColumn.path).Nodup ∧
    ∃ next other, nameGiven.cache.registerAll "docs" priceAndName = .ok next ∧
      nameGiven.cache.registerAll "docs" priceAndName.reverse = .ok other ∧ next.Alike other ∧
      next.column? "docs" ⟨[.field "name"]⟩ = some ⟨⟨[.field "name"]⟩, "vc_name2", .text⟩ ∧
      (run defaultEngine nameGiven (priceAndName.map (.register "docs"))).fetches =
        nameGiven.fetches := by
  have hdistinct : (priceAndName.map VirtualColumn.path).Nodup := by decide
  obtain ⟨next, h⟩ : ∃ next, nameGiven.cache.registerAll "docs" priceAndName = .ok next := ⟨_, rfl⟩
  obtain ⟨_, _, hok, hfetches, _⟩ :=
    registers_in_any_order defaultEngine nameGiven "docs" priceAndName
  obtain ⟨horders, hcolumns, _⟩ := hok next h hdistinct
  obtain ⟨other, h', halike⟩ := horders priceAndName.reverse (List.reverse_perm _)
  exact ⟨hdistinct, next, other, h, h', halike, hcolumns _ (.tail _ (.head _)), hfetches⟩

end CacheRun

end DocumentQuery
