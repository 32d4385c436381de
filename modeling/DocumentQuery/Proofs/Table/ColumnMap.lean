import DocumentQuery.Proofs.Result
import DocumentQuery.Table.ColumnMap

/-!
# The column of a path

What a map of virtual columns gives for a path after each way to change it.

* `ColumnMap.path_of_get?`, `ColumnMap.get?_of_mem`: a column is found under its
  own path;
* `ColumnMap.of_named?`: the column of a name;
* `ColumnMap.get?_overlay`: the newer of two maps comes first;
* `ColumnMap.get?_ofReported`: the first reported column of a path counts;
* `ColumnMap.virtual?_eq_some`: what a reported column exposes;
* `ColumnMap.register_eq_ok`: a registration keeps the type of its path.
-/

namespace DocumentQuery.ColumnMap

variable {m : ColumnMap} {c : VirtualColumn} {p : Path}

theorem path_of_get? (h : m.get? p = some c) : c.path = p := by
  simpa using List.find?_some h

/-- Every column of a map is found under its path. -/
theorem get?_of_mem (h : c ∈ m.columns) : m.get? c.path = some c := by
  obtain ⟨columns, distinct⟩ := m
  rw [get?]
  dsimp only at h ⊢
  induction columns with
  | nil => cases h
  | cons d ds ih =>
    rw [List.map_cons, List.nodup_cons] at distinct
    rcases List.mem_cons.mp h with rfl | hmem
    · exact List.find?_cons_of_pos (beq_self_eq_true _)
    · have hne : d.path ≠ c.path := fun heq =>
        distinct.1 (heq ▸ List.mem_map_of_mem hmem)
      rw [List.find?_cons_of_neg (by simpa using hne)]
      exact ih distinct.2 hmem

theorem mem_of_get? (h : m.get? p = some c) : c ∈ m.columns := List.mem_of_find?_eq_some h

/-- A column that is found by its name has the name and is found under its path. -/
theorem of_named? {name : String} (h : m.named? name = some c) :
    c.name = name ∧ m.get? c.path = some c :=
  ⟨by simpa using List.find?_some h, get?_of_mem (List.mem_of_find?_eq_some h)⟩

theorem get?_empty (p : Path) : empty.get? p = none := rfl

/-- Of columns put in one after another, no two of the same path, the one of a path
comes before what was there. -/
theorem get?_foldl_insert {cs : List VirtualColumn} (h : (cs.map VirtualColumn.path).Nodup)
    (m : ColumnMap) (p : Path) :
    (cs.foldl insert m).get? p = (cs.find? (·.path == p)).or (m.get? p) := by
  induction cs generalizing m with
  | nil => rfl
  | cons c cs ih =>
    rw [List.map_cons, List.nodup_cons] at h
    rw [List.foldl_cons, ih h.2, get?_insert]
    by_cases hp : c.path = p
    · have hnone : cs.find? (·.path == p) = none := by
        rw [List.find?_eq_none]
        intro d hd hdp
        exact h.1 (List.mem_map.mpr ⟨d, hd, (beq_iff_eq.mp hdp).trans hp.symm⟩)
      rw [hnone, if_pos hp.symm, List.find?_cons_of_pos (by simp [hp])]
      rfl
    · rw [if_neg (Ne.symm hp), List.find?_cons_of_neg (by simp [hp])]

theorem get?_overlay (m newer : ColumnMap) (p : Path) :
    (m.overlay newer).get? p = (newer.get? p).or (m.get? p) :=
  get?_foldl_insert newer.distinct m p

theorem get?_insertNew (m : ColumnMap) (c : VirtualColumn) (p : Path) :
    (m.insertNew c).get? p = (m.get? p).or (if c.path = p then some c else none) := by
  rw [insertNew]
  split
  · rename_i h
    obtain ⟨d, hd⟩ := Option.isSome_iff_exists.mp h
    split
    · rename_i hp
      rw [← hp, hd]
      rfl
    · rw [Option.or_none]
  · rename_i h
    rw [get?_insert]
    by_cases hp : c.path = p
    · rw [hp, Option.not_isSome_iff_eq_none] at h
      rw [if_pos hp.symm, if_pos hp, h]
      rfl
    · rw [if_neg (Ne.symm hp), if_neg hp, Option.or_none]

/-- Of columns put in one after another where there is none, the first of a path counts. -/
theorem get?_foldl_insertNew (m : ColumnMap) (cs : List VirtualColumn) (p : Path) :
    (cs.foldl insertNew m).get? p = (m.get? p).or (cs.find? (·.path == p)) := by
  induction cs generalizing m with
  | nil => rw [List.foldl_nil, List.find?_nil, Option.or_none]
  | cons c cs ih =>
    rw [List.foldl_cons, ih, get?_insertNew, Option.or_assoc]
    by_cases hp : c.path = p
    · rw [if_pos hp, List.find?_cons_of_pos (by simp [hp])]
      rfl
    · rw [if_neg hp, List.find?_cons_of_neg (by simp [hp])]
      rfl

theorem get?_ofReported (sourcePath? : String → Option Path) (columns : List Column) (p : Path) :
    (ofReported sourcePath? columns).get? p =
      (columns.filterMap (virtual? sourcePath?)).find? (·.path == p) := by
  rw [ofReported, get?_foldl_insertNew, get?_empty, Option.none_or]

/-- The virtual column that a reported column is has its name, and the path that its
expression reads. -/
theorem virtual?_eq_some {sourcePath? : String → Option Path} {column : Column} :
    virtual? sourcePath? column = some c ↔
      column.isHidden = true ∧ ∃ text, column.expression = some text ∧
        sourcePath? text = some c.path ∧ column.name = c.name ∧
        Affinity.ofDeclared column.declaredType = c.affinity := by
  rw [virtual?]
  constructor
  · intro h
    split at h
    · rename_i hhidden
      obtain ⟨text, htext, h⟩ := Option.bind_eq_some_iff.mp h
      obtain ⟨path, hpath, h⟩ := Option.bind_eq_some_iff.mp h
      cases h
      exact ⟨hhidden, text, htext, hpath, rfl, rfl⟩
    · cases h
  · rintro ⟨hhidden, text, htext, hpath, hname, haffinity⟩
    rw [if_pos hhidden, htext, Option.bind_eq_bind, Option.bind_some, hpath, hname, haffinity]
    rfl

/-- A registration succeeds if the path has no column of another type. -/
theorem register_eq_ok {table : String} {next : ColumnMap} :
    m.register table c = .ok next ↔
      (∀ d, m.get? c.path = some d → d.affinity = c.affinity) ∧ m.insert c = next := by
  rw [register]
  cases hd : m.get? c.path with
  | none => simp
  | some d =>
    by_cases ha : d.affinity = c.affinity
    · simp [ha]
    · simp [ha]

end DocumentQuery.ColumnMap
