import DocumentQuery.Engine.Provision
import Mathlib.Data.List.Nodup

/-!
# The schemas of a store

What is truly in a store that does as it is told: the columns of each table,
no two of the same name. A column is added at the end, under a name that is
not taken, and none is ever removed. The store reports what is there.

* `Schema`, `Schemas`: the columns of a table and of all tables;
* `Schemas.answer`: the reply to a request, which may be an error that has no
  further effect;
* `Schemas.Within`: everything that is in one store is in the other;
* `Schemas.Exposes`: a column of this name reads a path.
-/

namespace DocumentQuery

/-- The columns of a table, no two of the same name. -/
structure Schema where
  columns : List Column
  distinct : (columns.map Column.name).Nodup

namespace Schema

variable {s : Schema} {c d : Column}

/-- Whether there is a column of exactly this name. -/
def hasColumn (s : Schema) (name : String) : Bool := s.columns.any (·.name == name)

theorem hasColumn_iff {name : String} :
    s.hasColumn name = true ↔ ∃ c ∈ s.columns, c.name = name := by
  simp [hasColumn]

/-- A column at the end, unless its name is taken. -/
def add (s : Schema) (c : Column) : Schema :=
  if h : s.hasColumn c.name = true then s
  else
    { columns := s.columns ++ [c]
      distinct := by
        rw [List.map_append, List.nodup_append]
        refine ⟨s.distinct, List.nodup_singleton _, ?_⟩
        rintro name hname _ hnew rfl
        obtain ⟨d, hd, rfl⟩ := List.mem_map.mp hname
        exact h (hasColumn_iff.mpr ⟨d, hd, List.mem_singleton.mp hnew⟩) }

theorem columns_add (h : s.hasColumn c.name = false) : (s.add c).columns = s.columns ++ [c] := by
  rw [add, dif_neg (by simp [h])]

theorem mem_add_of_mem (h : d ∈ s.columns) (c : Column) : d ∈ (s.add c).columns := by
  rw [add]
  split
  · exact h
  · exact List.mem_append_left _ h

/-- A name belongs to one column. -/
theorem eq_of_name (hc : c ∈ s.columns) (hd : d ∈ s.columns) (h : c.name = d.name) : c = d :=
  List.inj_on_of_nodup_map s.distinct hc hd h

end Schema

/-- The columns of all tables of a store. -/
def Schemas : Type := String → Schema

namespace Schemas

variable {s s₁ s₂ : Schemas} {t name : String} {p q : Path}

/-- A column at the end of a table, unless its name is taken. -/
def add (s : Schemas) (table : String) (c : Column) : Schemas :=
  fun t => if t = table then (s t).add c else s t

/-- Executes a statement. -/
def execute (s : Schemas) : Ddl → Except Error Unit × Schemas
  | .createTable _ table key document =>
    (.ok (), (s.add table ⟨key, "TEXT", false, none⟩).add table ⟨document, "TEXT", false, none⟩)
  | .addColumn table column affinity expression =>
    if (s table).hasColumn column then
      (.error (.storage (.reported ("duplicate column name: " ++ column))), s)
    else (.ok (), s.add table ⟨column, affinity.name, true, some expression⟩)
  | .createIndex .. => (.ok (), s)

/-- The reply to a request, `elapsed` milliseconds after it was made. With a fault it is
this error and changes nothing. -/
def answer (fault : Option Error) (elapsed : Nat) (s : Schemas) :
    (request : Request) → request.Reply × Schemas
  | .readSchema table => (Reading.mk elapsed (fault.elim (.ok (s table).columns) .error), s)
  | .hasColumn table column => (fault.elim (.ok ((s table).hasColumn column)) .error, s)
  | .execute statement => fault.elim (s.execute statement) fun e => (.error e, s)

theorem answer_execute (elapsed : Nat) (s : Schemas) (statement : Ddl) :
    s.answer none elapsed (.execute statement) = s.execute statement := rfl

/-- A store with one document table. -/
def documents : Schemas := fun table =>
  if table = "docs" then ⟨[⟨"id", "TEXT", false, none⟩, ⟨"data", "TEXT", false, none⟩], by decide⟩
  else ⟨[], List.nodup_nil⟩

/-- The same store with a column that somebody added who gives columns other names. -/
def withLegacy : Schemas :=
  documents.add "docs" ⟨"legacy", "TEXT", true, some "json_extract(data, '$.Category')"⟩

/-! ## Growth -/

/-- Every column of `s` is one of `s₁`. -/
def Within (s s₁ : Schemas) : Prop := ∀ t, ∀ c ∈ (s t).columns, c ∈ (s₁ t).columns

theorem Within.refl (s : Schemas) : s.Within s := fun _ _ h => h

theorem Within.trans (h : s.Within s₁) (h₁ : s₁.Within s₂) : s.Within s₂ :=
  fun t c hc => h₁ t c (h t c hc)

theorem within_add (s : Schemas) (table : String) (c : Column) : s.Within (s.add table c) := by
  intro t d hd
  rw [add]
  split
  · exact Schema.mem_add_of_mem hd c
  · exact hd

theorem within_execute (s : Schemas) (statement : Ddl) : s.Within (s.execute statement).2 := by
  cases statement with
  | createTable ifNotExists table key document =>
    exact (within_add s _ _).trans (within_add _ _ _)
  | addColumn table column affinity expression =>
    rw [execute]
    split
    · exact .refl s
    · exact within_add s _ _
  | createIndex => exact .refl s

/-- No reply comes with the loss of a column. -/
theorem within_answer (fault : Option Error) (elapsed : Nat) (s : Schemas) (request : Request) :
    s.Within (s.answer fault elapsed request).2 := by
  cases request with
  | readSchema | hasColumn => exact .refl s
  | execute statement =>
    cases fault with
    | none => exact within_execute s statement
    | some e => exact .refl s

/-- A column that was added without an error stands at the end. -/
theorem columns_of_execute {column expression : String} {affinity : Affinity}
    (h : s.execute (.addColumn t column affinity expression) = (.ok (), s₁)) :
    (s₁ t).columns = (s t).columns ++ [⟨column, affinity.name, true, some expression⟩] := by
  rw [execute] at h
  split at h
  · cases h
  · rename_i habsent
    cases h
    rw [add, if_pos rfl]
    exact Schema.columns_add (by simpa using habsent)

/-! ## Columns that read a path -/

/-- A column of this name has an expression that reads the path. -/
def Exposes (s : Schemas) (e : Engine) (t name : String) (p : Path) : Prop :=
  ∃ column ∈ (s t).columns, column.name = name ∧
    ∃ text, column.expression = some text ∧ e.sourcePath? text = some p

variable {e : Engine}

theorem Exposes.mono (h : s.Exposes e t name p) (hle : s.Within s₁) : s₁.Exposes e t name p := by
  obtain ⟨column, hmem, hcolumn⟩ := h
  exact ⟨column, hle t column hmem, hcolumn⟩

/-- A column reads one path only. -/
theorem Exposes.unique (hp : s.Exposes e t name p) (hq : s.Exposes e t name q) : p = q := by
  obtain ⟨c, hc, hcname, text, htext, hsource⟩ := hp
  obtain ⟨d, hd, hdname, text', htext', hsource'⟩ := hq
  obtain rfl := Schema.eq_of_name hc hd (hcname.trans hdname.symm)
  rw [htext] at htext'
  cases htext'
  exact Option.some.inj (hsource.symm.trans hsource')

end Schemas

end DocumentQuery
