import DocumentQuery.Proofs.Sql.Parameters
import DocumentQuery.Proofs.Text.Words
import DocumentQuery.Sql.Ddl

/-!
# Statements that pass their checks

* `Path.columnName_eq_ok`: when a path has a column name;
* `Ddl.documentTable_eq_ok`, `Ddl.virtualColumn_eq_ok`: the statements that
  create a table and a column;
* `Ddl.index_eq_ok`: the statement that creates an index with a name of its own.
-/

namespace DocumentQuery

variable {s : Settings} {table column name : String} {path : Path} {affinity : Affinity} {d : Ddl}

/-- The name that a path would have. -/
def Path.columnText (s : Settings) (path : Path) : String :=
  s.columnPrefix ++ "_".intercalate (path.segments.map Segment.namePart)

theorem Path.columnName_eq_ok :
    path.columnName s = .ok name ↔ path.columnText s = name ∧ Sql.checkName name = .ok () := by
  rw [columnName]
  constructor
  · intro h
    obtain ⟨_, hcheck, h⟩ := bind_eq_ok.mp h
    cases h
    exact ⟨rfl, hcheck⟩
  · rintro ⟨rfl, hcheck⟩
    exact bind_eq_ok.mpr ⟨(), hcheck, rfl⟩

theorem Ddl.documentTable_eq_ok {ifNotExists : Bool} :
    documentTable s table ifNotExists = .ok d ↔
      Sql.checkName table = .ok () ∧
        .createTable ifNotExists table s.keyColumn s.documentColumn = d := by
  constructor
  · intro h
    obtain ⟨_, hcheck, h⟩ := bind_eq_ok.mp h
    cases h
    exact ⟨hcheck, rfl⟩
  · rintro ⟨hcheck, rfl⟩
    exact bind_eq_ok.mpr ⟨(), hcheck, rfl⟩

theorem Ddl.virtualColumn_eq_ok :
    virtualColumn s table column path affinity = .ok d ↔
      Sql.checkName table = .ok () ∧ Sql.checkName column = .ok () ∧
        .addColumn table column affinity (s.extraction.text path) = d := by
  constructor
  · intro h
    obtain ⟨_, htable, h⟩ := bind_eq_ok.mp h
    obtain ⟨_, hcolumn, h⟩ := bind_eq_ok.mp h
    cases h
    exact ⟨htable, hcolumn, rfl⟩
  · rintro ⟨htable, hcolumn, rfl⟩
    exact bind_eq_ok.mpr ⟨(), htable, bind_eq_ok.mpr ⟨(), hcolumn, rfl⟩⟩

theorem Ddl.virtualColumn_of_checkName (s : Settings) (path : Path) (affinity : Affinity)
    (htable : Sql.checkName table = .ok ()) (hcolumn : Sql.checkName column = .ok ()) :
    virtualColumn s table column path affinity =
      .ok (.addColumn table column affinity (s.extraction.text path)) :=
  virtualColumn_eq_ok.mpr ⟨htable, hcolumn, rfl⟩

/-! ## Indexes -/

theorem Ddl.toList_indexName (table column : String) :
    (indexName table [column]).toList =
      'i' :: 'x' :: '_' :: (table.toList ++ '_' :: column.toList) := by
  simp [indexName]

/-- The name of an index is a word, so it can only be too long. -/
theorem Sql.checkName_indexName (htable : Text.isWord table.toList = true)
    (hcolumn : Text.isWord column.toList = true)
    (hlength : (Ddl.indexName table [column]).toList.length ≤ Sql.maxNameLength) :
    Sql.checkName (Ddl.indexName table [column]) = .ok () := by
  refine checkName_of_isWord ?_ ?_ hlength
  · rw [Ddl.toList_indexName, Text.isWord, Bool.and_eq_true, List.all_eq_true]
    refine ⟨rfl, fun c hc => ?_⟩
    simp only [List.mem_cons, List.mem_append] at hc
    rcases hc with rfl | rfl | hc | rfl | hc
    · rfl
    · rfl
    · exact Text.isWordChar_of_mem htable hc
    · rfl
    · exact Text.isWordChar_of_mem hcolumn hc
  · rw [Ddl.toList_indexName]
    simp

theorem Ddl.index_eq_ok (htable : Sql.checkName table = .ok ())
    (hcolumn : Sql.checkName column = .ok ())
    (hlength : (indexName table [column]).toList.length ≤ Sql.maxNameLength) :
    index table [column] none false =
      .ok (.createIndex false (indexName table [column]) table [column]) := by
  have hindex := Sql.checkName_indexName (Sql.isWord_of_checkName htable)
    (Sql.isWord_of_checkName hcolumn) hlength
  refine bind_eq_ok.mpr ⟨(), htable, bind_eq_ok.mpr ⟨(), ?_, bind_eq_ok.mpr ⟨(), hindex, rfl⟩⟩⟩
  exact bind_eq_ok.mpr ⟨(), hcolumn, rfl⟩

end DocumentQuery
