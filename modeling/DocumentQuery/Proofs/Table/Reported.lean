import DocumentQuery.Proofs.Table.ColumnMap
import DocumentQuery.Sql.SourcePath

/-!
# The columns that a load keeps

A store reports all the columns of a table, in its order. A load keeps those
that are hidden and have an expression which reads a path, and of several that
read the same path the first.

* `Column.Exposes`: a reported column reads a path;
* `ColumnMap.exposes_iff`, `ColumnMap.virtual?_eq_none`: what comes of one column;
* `ColumnMap.get?_ofReported_eq_some`: the first column that exposes a path counts;
* `ColumnMap.ofReported_skip`: a column of which nothing comes might as well not be there;
* `ColumnMap.ofReported_first`: the map of any list of reported columns.
-/

namespace DocumentQuery

/-- A reported column is hidden, and its expression reads the path. -/
def Column.Exposes (sourcePath? : String → Option Path) (column : Column) (path : Path) : Prop :=
  column.isHidden = true ∧ ∃ text, column.expression = some text ∧ sourcePath? text = some path

namespace ColumnMap

variable {sourcePath? : String → Option Path} {column : Column} {columns : List Column} {p : Path}
  {c : VirtualColumn}

/-! ## One column -/

theorem exposes_iff :
    column.Exposes sourcePath? p ↔
      virtual? sourcePath? column = some ⟨p, column.name, .ofDeclared column.declaredType⟩ := by
  rw [virtual?_eq_some]
  simp only [Column.Exposes, and_self, and_true]

theorem any_virtual?_iff :
    (virtual? sourcePath? column).any (·.path == p) = true ↔ column.Exposes sourcePath? p := by
  rw [Option.any_eq_true, exposes_iff]
  constructor
  · rintro ⟨c, hc, hpath⟩
    obtain ⟨_, _, _, _, hname, haffinity⟩ := virtual?_eq_some.mp hc
    rw [hc, hname, haffinity, ← beq_iff_eq.mp hpath]
  · exact fun h => ⟨_, h, beq_self_eq_true p⟩

/-- Nothing comes of a column that is part of the stored row, has no expression or has one
that reads no path. -/
theorem virtual?_eq_none :
    virtual? sourcePath? column = none ↔
      column.isHidden = false ∨ column.expression = none ∨
        ∃ text, column.expression = some text ∧ sourcePath? text = none := by
  rw [virtual?]
  cases column.isHidden with
  | false => simp
  | true =>
    cases column.expression with
    | none => simp
    | some text => cases h : sourcePath? text <;> simp [h]

/-! ## All columns -/

/-- The column of a path is the first that exposes it. -/
theorem get?_ofReported_eq_some :
    (ofReported sourcePath? columns).get? p = some c ↔
      ∃ before column after, columns = before ++ column :: after ∧
        (∀ earlier ∈ before, ¬ earlier.Exposes sourcePath? p) ∧ column.Exposes sourcePath? p ∧
        c = ⟨p, column.name, .ofDeclared column.declaredType⟩ := by
  rw [get?_ofReported, List.find?_filterMap, Option.bind_eq_some_iff]
  constructor
  · rintro ⟨column, hfind, hc⟩
    obtain ⟨hany, before, after, rfl, hbefore⟩ := List.find?_eq_some_iff_append.mp hfind
    have hexposes := any_virtual?_iff.mp hany
    refine ⟨before, column, after, rfl, fun earlier hmem h => ?_, hexposes, ?_⟩
    · have hnot := hbefore earlier hmem
      rw [any_virtual?_iff.mpr h] at hnot
      cases hnot
    · exact Option.some.inj (hc.symm.trans (exposes_iff.mp hexposes))
  · rintro ⟨before, column, after, rfl, hbefore, hexposes, rfl⟩
    refine ⟨column, List.find?_eq_some_iff_append.mpr ⟨any_virtual?_iff.mpr hexposes, before, after,
      rfl, fun earlier hmem => ?_⟩, exposes_iff.mp hexposes⟩
    rw [Bool.not_eq_true', Bool.eq_false_iff]
    exact fun h => hbefore earlier hmem (any_virtual?_iff.mp h)

theorem exists_get?_ofReported :
    (∃ c, (ofReported sourcePath? columns).get? p = some c) ↔
      ∃ column ∈ columns, column.Exposes sourcePath? p := by
  rw [← Option.isSome_iff_exists, get?_ofReported, List.find?_isSome]
  constructor
  · rintro ⟨c, hmem, hpath⟩
    obtain ⟨column, hcolumn, hc⟩ := List.mem_filterMap.mp hmem
    exact ⟨column, hcolumn, any_virtual?_iff.mp ((Option.any_eq_true _ _).mpr ⟨c, hc, hpath⟩)⟩
  · rintro ⟨column, hcolumn, h⟩
    exact ⟨_, List.mem_filterMap.mpr ⟨column, hcolumn, exposes_iff.mp h⟩, beq_self_eq_true p⟩

/-- The rest of the columns alone decides the map if nothing comes of one of them. -/
theorem ofReported_skip (h : virtual? sourcePath? column = none) (before after : List Column) :
    ofReported sourcePath? (before ++ column :: after) =
      ofReported sourcePath? (before ++ after) := by
  rw [ofReported, ofReported, List.filterMap_append, List.filterMap_append,
    List.filterMap_cons_none h]

/-- A load gives a path a column exactly if a reported column exposes the path. It is found
under the path, with the name and the type of the first such column. A column that is part
of the stored row, has no expression or has one that reads no path changes nothing. -/
theorem ofReported_first (sourcePath? : String → Option Path) (columns : List Column) :
    (∀ p, (∃ c, (ofReported sourcePath? columns).get? p = some c) ↔
      ∃ column ∈ columns, column.Exposes sourcePath? p) ∧
    (∀ p c, (ofReported sourcePath? columns).get? p = some c ↔
      ∃ before column after, columns = before ++ column :: after ∧
        (∀ earlier ∈ before, ¬ earlier.Exposes sourcePath? p) ∧ column.Exposes sourcePath? p ∧
        c = ⟨p, column.name, .ofDeclared column.declaredType⟩) ∧
    ∀ before column after, columns = before ++ column :: after →
      (column.isHidden = false ∨ column.expression = none ∨
        ∃ text, column.expression = some text ∧ sourcePath? text = none) →
      ofReported sourcePath? columns = ofReported sourcePath? (before ++ after) := by
  refine ⟨fun p => exists_get?_ofReported, fun p c => get?_ofReported_eq_some, ?_⟩
  rintro before column after rfl hnothing
  exact ofReported_skip (virtual?_eq_none.mpr hnothing) before after

/-- Of two columns for the path `$.name` the second has another type; the last column
computes something. -/
def namesAndTotal : List Column :=
  [⟨"name", "VARCHAR(40)", true, some "json_extract(data, '$.name')"⟩,
    ⟨"other", "INTEGER", true, some "json_extract(data, '$.name')"⟩,
    ⟨"total", "REAL", true, some "json_extract(data, '$.price') * 2"⟩]

theorem ofReported_first_names :
    (ofReported ({} : Settings).extraction.sourcePath? namesAndTotal).get? ⟨[.field "name"]⟩ =
      some ⟨⟨[.field "name"]⟩, "name", .text⟩ ∧
    ofReported ({} : Settings).extraction.sourcePath? namesAndTotal =
      ofReported ({} : Settings).extraction.sourcePath? (namesAndTotal.take 2) := by
  obtain ⟨_, hfirst, hskip⟩ :=
    ofReported_first ({} : Settings).extraction.sourcePath? namesAndTotal
  refine ⟨(hfirst _ _).mpr ⟨[], _, _, rfl, List.forall_mem_nil _, ⟨rfl, _, rfl, ?_⟩, ?_⟩,
    hskip (namesAndTotal.take 2) _ [] rfl (.inr (.inr ⟨_, rfl, ?_⟩))⟩
  · decide +kernel
  · decide +kernel
  · decide +kernel

end ColumnMap

end DocumentQuery
