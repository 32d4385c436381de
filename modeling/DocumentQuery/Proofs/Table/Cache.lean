import DocumentQuery.Proofs.Table.ColumnMap
import DocumentQuery.Table.Cache

/-!
# What a cache knows of a path

The tables that a cache knows, the column that it gives for a path of a table,
and the number of drops, after each operation on it.

* `Cache.column?`: the column of a path of a table;
* `Cache.column?_install`: a load adds columns only where nothing is known,
  and none at all after a drop;
* `Cache.register_eq_ok`, `Cache.column?_register`: one column by the caller;
* `Cache.get?_invalidate`, `Cache.column?_invalidate`: a table that is not known any more;
* `Cache.mem_tableNames`, `Cache.pairwise_tableNames_put`,
  `Cache.pairwise_tableNames_invalidate`: the names of the known tables and their order;
* `Cache.All`: what is true of every column that is known stays so;
* `Reading.columns?_eq_ok`: the reads that give columns.
-/

namespace DocumentQuery

namespace Cache

variable {c next : Cache} {t u : String} {p : Path} {column : VirtualColumn}

/-- The column that is known for a path of a table. -/
def column? (c : Cache) (table : String) (path : Path) : Option VirtualColumn :=
  (c.get? table).bind (·.get? path)

theorem path_of_column? (h : c.column? t p = some column) : column.path = p := by
  obtain ⟨m, _, hm⟩ := Option.bind_eq_some_iff.mp h
  exact ColumnMap.path_of_get? hm

theorem get?_put (c : Cache) (t u : String) (m : ColumnMap) :
    (c.put t m).get? u = if u = t then some m else c.get? u :=
  Keyed.lookup_insert t u m c.tables

theorem column?_put (c : Cache) (t u : String) (m : ColumnMap) (p : Path) :
    (c.put t m).column? u p = if u = t then m.get? p else c.column? u p := by
  rw [column?, get?_put]
  split <;> rfl

/-! ## Registration -/

/-- The columns of a table that is not known are none. -/
theorem get?_getD (c : Cache) (t : String) (p : Path) :
    ((c.get? t).getD .empty).get? p = c.column? t p := by
  rw [column?]
  cases c.get? t <;> rfl

/-- A registration succeeds if its path has no column of another type. -/
theorem register_eq_ok :
    c.register t column = .ok next ↔
      (∀ d, c.column? t column.path = some d → d.affinity = column.affinity) ∧
        c.put t (((c.get? t).getD .empty).insert column) = next := by
  rw [register, map_eq_ok]
  constructor
  · rintro ⟨m, hm, rfl⟩
    obtain ⟨haffinity, rfl⟩ := ColumnMap.register_eq_ok.mp hm
    exact ⟨fun d hd => haffinity d (by rwa [get?_getD]), rfl⟩
  · rintro ⟨haffinity, rfl⟩
    exact ⟨_, ColumnMap.register_eq_ok.mpr
      ⟨fun d hd => haffinity d (by rwa [get?_getD] at hd), rfl⟩, rfl⟩

theorem column?_register (h : c.register t column = .ok next) (u : String) (p : Path) :
    next.column? u p = if u = t ∧ p = column.path then some column else c.column? u p := by
  obtain ⟨_, rfl⟩ := register_eq_ok.mp h
  rw [column?_put, ColumnMap.get?_insert, get?_getD]
  by_cases hu : u = t
  · by_cases hp : p = column.path
    · rw [if_pos hu, if_pos hp, if_pos ⟨hu, hp⟩]
    · rw [if_pos hu, if_neg hp, if_neg fun h => hp h.2, hu]
  · rw [if_neg hu, if_neg fun h => hu h.1]

/-- Other tables stay as they are. -/
theorem get?_register_of_ne (h : c.register t column = .ok next) (hu : u ≠ t) :
    next.get? u = c.get? u := by
  obtain ⟨_, rfl⟩ := register_eq_ok.mp h
  rw [get?_put, if_neg hu]

theorem drops_register (h : c.register t column = .ok next) : next.drops = c.drops := by
  obtain ⟨_, rfl⟩ := register_eq_ok.mp h
  rfl

/-! ## The end of a load -/

theorem install_of_ne {load : Load} (h : c.drops ≠ load.drops) (loaded : ColumnMap) :
    c.install load loaded = (loaded, c) := by
  rw [install, if_pos h]

/-- The end of a load of which nothing came between. -/
theorem install_load (h : c.get? t = none) (loaded : ColumnMap) :
    c.install (c.load t) loaded = (loaded, c.put t loaded) := by
  have hdrops : ¬ c.drops ≠ (c.load t).drops := not_not_intro rfl
  rw [install, if_neg hdrops]
  dsimp only [load]
  rw [h]

theorem column?_install (c : Cache) (load : Load) (loaded : ColumnMap) (u : String) (p : Path) :
    (c.install load loaded).2.column? u p =
      if c.drops = load.drops ∧ u = load.table then (c.column? u p).or (loaded.get? p)
      else c.column? u p := by
  by_cases hdrops : c.drops = load.drops
  · rw [install, if_neg (not_not_intro hdrops)]
    dsimp only
    rw [column?_put]
    by_cases hu : u = load.table
    · rw [if_pos hu, if_pos ⟨hdrops, hu⟩, hu, column?]
      cases c.get? load.table with
      | none => rfl
      | some current => exact ColumnMap.get?_overlay loaded current p
    · rw [if_neg hu, if_neg fun h => hu h.2]
  · rw [install_of_ne hdrops, if_neg fun h => hdrops h.1]

theorem drops_install (c : Cache) (load : Load) (loaded : ColumnMap) :
    (c.install load loaded).2.drops = c.drops := by
  rw [install]
  split <;> rfl

/-! ## Drops -/

theorem get?_invalidate (c : Cache) (t u : String) :
    (c.invalidate t).get? u = if u = t then none else c.get? u :=
  Keyed.lookup_erase t u c.tables

theorem column?_invalidate (c : Cache) (t u : String) (p : Path) :
    (c.invalidate t).column? u p = if u = t then none else c.column? u p := by
  rw [column?, get?_invalidate]
  split <;> rfl

/-! ## The known tables -/

theorem mem_tableNames : t ∈ c.tableNames ↔ (c.get? t).isSome = true := Keyed.mem_names

theorem isSome_get?_put (c : Cache) (t u : String) (m : ColumnMap) :
    ((c.put t m).get? u).isSome = true ↔ t = u ∨ (c.get? u).isSome = true := by
  rw [get?_put]
  by_cases hu : u = t
  · simp [hu]
  · rw [if_neg hu]
    exact ⟨.inr, fun h => h.resolve_left (Ne.symm hu)⟩

theorem isSome_get?_invalidate (c : Cache) (t u : String) :
    ((c.invalidate t).get? u).isSome = true ↔ t ≠ u ∧ (c.get? u).isSome = true := by
  rw [get?_invalidate]
  by_cases hu : u = t
  · simp [hu]
  · simp [hu, Ne.symm hu]

theorem pairwise_tableNames_put (h : c.tableNames.Pairwise (· < ·)) (t : String) (m : ColumnMap) :
    (c.put t m).tableNames.Pairwise (· < ·) :=
  Keyed.pairwise_names_insert h t m

theorem pairwise_tableNames_invalidate (h : c.tableNames.Pairwise (· < ·)) (t : String) :
    (c.invalidate t).tableNames.Pairwise (· < ·) :=
  Keyed.pairwise_names_erase h t

end Cache

/-! ## Every column that is known -/

/-- Every column of a map has a property. -/
def ColumnMap.All (m : ColumnMap) (P : VirtualColumn → Prop) : Prop :=
  ∀ p column, m.get? p = some column → P column

/-- Every column that is known has a property, which may depend on the table. -/
def Cache.All (c : Cache) (P : String → VirtualColumn → Prop) : Prop :=
  ∀ t p column, c.column? t p = some column → P t column

namespace Cache.All

variable {P Q : String → VirtualColumn → Prop} {c next : Cache} {t : String}
  {column : VirtualColumn}

theorem imp (h : c.All P) (hpq : ∀ t column, P t column → Q t column) : c.All Q :=
  fun t p column hc => hpq t column (h t p column hc)

theorem empty : Cache.empty.All P := fun _ _ _ h => nomatch h

theorem clear (c : Cache) : c.clear.All P := fun _ _ _ h => nomatch h

theorem get? (h : c.All P) {m : ColumnMap} (hm : c.get? t = some m) : m.All (P t) :=
  fun p column hc => h t p column (by rw [column?, hm]; exact hc)

theorem invalidate (h : c.All P) (t : String) : (c.invalidate t).All P := by
  intro u p column hc
  rw [column?_invalidate] at hc
  split at hc
  · cases hc
  · exact h u p column hc

theorem register (h : c.All P) (hregister : c.register t column = .ok next)
    (hcolumn : P t column) : next.All P := by
  intro u p d hd
  rw [column?_register hregister] at hd
  split at hd
  · rename_i hnew
    obtain ⟨rfl, rfl⟩ := hnew
    cases hd
    exact hcolumn
  · exact h u p d hd

/-- The end of a load, whether its result comes into the cache or not. -/
theorem install (h : c.All P) (load : Load) {loaded : ColumnMap}
    (hloaded : loaded.All (P load.table)) :
    (c.install load loaded).1.All (P load.table) ∧ (c.install load loaded).2.All P := by
  have hnext : (c.install load loaded).2.All P := by
    intro t p column hc
    rw [column?_install] at hc
    split at hc
    · rename_i hcurrent
      rcases Option.or_eq_some_iff.mp hc with hknown | ⟨_, hfound⟩
      · exact h t p column hknown
      · rw [hcurrent.2]
        exact hloaded p column hfound
    · exact h t p column hc
  refine ⟨?_, hnext⟩
  by_cases hdrops : c.drops = load.drops
  · refine hnext.get? ?_
    rw [Cache.install, if_neg (not_not_intro hdrops)]
    exact (get?_put ..).trans (if_pos rfl)
  · rw [install_of_ne hdrops]
    exact hloaded

end Cache.All

/-- A read gives the columns of its answer if this comes in time. -/
theorem Reading.columns?_eq_ok {r : Reading} {table : String} {limit : Option Nat}
    {columns : List Column} :
    r.columns? table limit = .ok columns ↔
      limit.filter (· < r.elapsed) = none ∧ r.answer = .ok columns := by
  rw [columns?]
  cases limit.filter (· < r.elapsed) with
  | some limit => simp
  | none =>
    cases r.answer with
    | ok found => simp
    | error fault => cases fault <;> simp

end DocumentQuery
