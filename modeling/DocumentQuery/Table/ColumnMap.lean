import DocumentQuery.Error
import DocumentQuery.Table.Column

/-!
# The virtual columns of a table

What is known of the generated columns of one table: for each path at most one
column that exposes it.

* `ColumnMap`: the columns, no two of the same path;
* `ColumnMap.get?`: the column of a path;
* `ColumnMap.insert`, `ColumnMap.overlay`: one column more, or all of another map;
* `ColumnMap.register`: one column more, unless its path has another type;
* `ColumnMap.ofReported`: the map of the columns that a store reports.
-/

namespace DocumentQuery

/-- Virtual columns, the first one of a path replaced by `c` or, if there is none,
`c` at the end. -/
def VirtualColumn.insertInto (c : VirtualColumn) : List VirtualColumn → List VirtualColumn
  | [] => [c]
  | d :: ds => if d.path = c.path then c :: ds else d :: c.insertInto ds

theorem VirtualColumn.mem_paths_insertInto {c : VirtualColumn} {ds : List VirtualColumn}
    {p : Path} : p ∈ (c.insertInto ds).map path ↔ p = c.path ∨ p ∈ ds.map path := by
  induction ds with
  | nil => simp [insertInto]
  | cons d ds ih =>
    rw [insertInto]
    split
    · rename_i h
      simp [h]
    · simp only [List.map_cons, List.mem_cons, ih]
      exact or_left_comm

theorem VirtualColumn.nodup_insertInto {c : VirtualColumn} {ds : List VirtualColumn}
    (h : (ds.map path).Nodup) : ((c.insertInto ds).map path).Nodup := by
  induction ds with
  | nil => simp [insertInto]
  | cons d ds ih =>
    rw [List.map_cons, List.nodup_cons] at h
    rw [insertInto]
    split
    · rename_i hd
      rw [List.map_cons, List.nodup_cons, ← hd]
      exact h
    · rename_i hd
      rw [List.map_cons, List.nodup_cons]
      refine ⟨fun hm => ?_, ih h.2⟩
      rcases mem_paths_insertInto.1 hm with hm | hm
      · exact hd hm
      · exact h.1 hm

/-- The virtual columns of a table, no two of the same path. -/
structure ColumnMap where
  columns : List VirtualColumn
  distinct : (columns.map VirtualColumn.path).Nodup
  deriving DecidableEq

namespace ColumnMap

/-- No columns. -/
def empty : ColumnMap := ⟨[], List.nodup_nil⟩

instance : Inhabited ColumnMap := ⟨empty⟩

/-- The column that exposes a path. -/
def get? (m : ColumnMap) (path : Path) : Option VirtualColumn :=
  m.columns.find? (·.path == path)

/-- The first column of a name. -/
def named? (m : ColumnMap) (name : String) : Option VirtualColumn :=
  m.columns.find? (·.name == name)

/-- The number of columns. -/
def size (m : ColumnMap) : Nat := m.columns.length

/-- The map with a column for its path, in place of the one that it had. -/
def insert (m : ColumnMap) (c : VirtualColumn) : ColumnMap :=
  ⟨c.insertInto m.columns, VirtualColumn.nodup_insertInto m.distinct⟩

/-- The map of a list of columns, of which the last of each path counts. -/
def ofList (columns : List VirtualColumn) : ColumnMap := columns.foldl insert empty

/-- The map with every column of `newer`, which comes before its own. -/
def overlay (m newer : ColumnMap) : ColumnMap := newer.columns.foldl insert m

theorem get?_insert (m : ColumnMap) (c : VirtualColumn) (path : Path) :
    (m.insert c).get? path = if path = c.path then some c else m.get? path := by
  unfold get? insert
  simp only
  generalize m.columns = ds
  induction ds with
  | nil =>
    by_cases h : path = c.path
    · simp [VirtualColumn.insertInto, h]
    · simp [VirtualColumn.insertInto, h, beq_eq_false_iff_ne.2 (Ne.symm h)]
  | cons d ds ih =>
    rw [VirtualColumn.insertInto]
    split
    · rename_i hd
      by_cases h : path = c.path
      · simp [h]
      · simp [h, beq_eq_false_iff_ne.2 (Ne.symm h), hd]
    · rename_i hd
      by_cases h : d.path = path
      · subst h
        simp [hd]
      · simp only [List.find?_cons, beq_eq_false_iff_ne.2 h, ih]

/-- The map with a column registered for its path. The type of a path never
changes silently. -/
def register (m : ColumnMap) (table : String) (c : VirtualColumn) : Except Error ColumnMap :=
  match m.get? c.path with
  | some existing =>
    if existing.affinity = c.affinity then .ok (m.insert c)
    else .error (.conflict table c.path.text (existing.name ++ " " ++ existing.affinity.name)
      (c.name ++ " " ++ c.affinity.name))
  | none => .ok (m.insert c)

/-- The virtual column that a reported column is, if it is hidden and its
expression reads a path. -/
def virtual? (sourcePath? : String → Option Path) (c : Column) : Option VirtualColumn := do
  if c.isHidden then
    let path ← sourcePath? (← c.expression)
    return ⟨path, c.name, Affinity.ofDeclared c.declaredType⟩
  else none

/-- The map with a column, unless its path has one. -/
def insertNew (m : ColumnMap) (c : VirtualColumn) : ColumnMap :=
  if (m.get? c.path).isSome then m else m.insert c

/-- The map of reported columns: of those that expose the same path the first counts. -/
def ofReported (sourcePath? : String → Option Path) (columns : List Column) : ColumnMap :=
  (columns.filterMap (virtual? sourcePath?)).foldl insertNew empty

end ColumnMap

end DocumentQuery
