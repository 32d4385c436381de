import DocumentQuery.Proofs.Path.RoundTrip
import DocumentQuery.Proofs.Result
import DocumentQuery.Proofs.Sql.Ddl
import DocumentQuery.Proofs.Sql.ExtractionCall
import DocumentQuery.Proofs.Sql.Parameters
import DocumentQuery.Sql.ColumnRef
import DocumentQuery.Sql.SourcePath

/-!
# Calls recognised as what they read

The extraction call that is written for a path is recognised, by whoever finds
it as the expression of a generated column, as a call that reads this path.

* `Sql.callChars`: a call of a function on a column and a string;
* `Sql.isCall_callChars`: it is one of the texts that are recognised as calls;
* `Extraction.sourcePath?_text`: the path of a written call;
* `Settings.sourcePath?_written`: the path of every expression that is written.
-/

namespace DocumentQuery

namespace Sql

/-- The characters of a call of a function on a column and a string. -/
def callChars (function column string : List Char) : List Char :=
  function ++ '(' :: '"' :: (column ++ '"' :: ',' :: ' ' :: (Text.enclose '\'' string ++ [')']))

/-- What is written is a call, with its column in double quotes and one blank. -/
theorem isCall_callChars (function column string : List Char) :
    IsCall function column string (callChars function column string) := by
  have hnone : ∀ c ∈ ([] : List Char), Text.isBlank c = true := List.forall_mem_nil _
  have hspace : ∀ c ∈ [' '], Text.isBlank c = true := List.all_eq_true.mp rfl
  have h := @IsCall.intro function column string _ _ _ _ _ _ .doubleQuotes hnone hnone hnone hspace
    hnone
  simpa [callChars] using h

theorem trim_call {function : List Char} (hfunction : Text.isWord function = true)
    (column string : List Char) :
    Text.trim (callChars function column string) = callChars function column string :=
  (isCall_callChars function column string).trim hfunction

end Sql

namespace Extraction

variable {e : Extraction}

theorem toList_text (hcolumn : Sql.checkName e.column = .ok ()) (p : Path) :
    (e.text p).toList = Sql.callChars e.function.toList e.column.toList p.chars := by
  have hquote := Text.not_mem_of_isWord (Sql.isWord_of_checkName hcolumn) (d := '"') (by decide)
  simp [text, Sql.quoteName, Path.literal, Sql.callChars, Text.enclose, Text.double_eq_self hquote]

/-- The call that reads a path is recognised as one that does. -/
theorem sourcePath?_text (hfunction : Sql.checkName e.function = .ok ())
    (hcolumn : Sql.checkName e.column = .ok ()) {p : Path} (hp : p.IsWritable) :
    e.sourcePath? (e.text p) = some p := by
  have hread : Sql.readCall (Sql.stripParens (e.text p).toList) =
      some (e.function.toList, e.column.toList, p.chars) := by
    rw [toList_text hcolumn]
    exact (Sql.readCall_stripParens (Sql.isWord_of_checkName hfunction)
      (Sql.isWord_of_checkName hcolumn)).mpr ⟨_, Sql.isCall_callChars _ _ _, .self⟩
  have hparse : (Path.parse (String.ofList p.chars)).toOption = some p :=
    toOption_eq_some.mpr (Path.parse_text hp)
  rw [sourcePath?, hread, Option.bind_eq_bind, Option.bind_some]
  simp only [Text.sameIgnoringCase_self, Bool.and_self, if_pos, hparse]

end Extraction

/-! ## Where calls are written -/

/-- Where no virtual column serves a path, a query reads it by an extraction call. -/
theorem ColumnMap.text_resolve_of_get?_eq_none {m : ColumnMap} (s : Settings) {p : Path}
    (h : m.get? p = none) : (m.resolve s p).text = s.extraction.text p := by
  simp only [resolve, h, ColumnRef.text]

/-- Whatever is written to read a path is recognised as what reads this path and no other:
the expression of a generated column that is added for it, and the reference to it in a
query on a table without such a column. -/
theorem Settings.sourcePath?_written {s : Settings} (hs : s.check = .ok ()) {p : Path}
    (hp : p.IsWritable) :
    (∀ table column affinity, Sql.checkName table = .ok () → Sql.checkName column = .ok () →
      ∃ expression, Ddl.virtualColumn s table column p affinity =
          .ok (.addColumn table column affinity expression) ∧
        s.extraction.sourcePath? expression = some p) ∧
      ∀ columns : ColumnMap, columns.get? p = none →
        s.extraction.sourcePath? (columns.resolve s p).text = some p := by
  have hs := Settings.isChecked hs
  have hcall : s.extraction.sourcePath? (s.extraction.text p) = some p :=
    Extraction.sourcePath?_text hs.extractFunction hs.documentColumn hp
  refine ⟨fun table column affinity htable hcolumn => ?_, fun columns hnone => ?_⟩
  · have hadded := Ddl.virtualColumn_of_checkName s p affinity htable hcolumn
    exact ⟨_, hadded, hcall⟩
  · rw [ColumnMap.text_resolve_of_get?_eq_none s hnone]
    exact hcall

/-- Member names with parentheses, commas and runs of apostrophes. -/
def apostrophesPath : Path := ⟨[.field "it''s", .index 0, .field "') , ('", .field "(x"]⟩

def apostrophesText : String :=
  "json_extract(\"data\", '$.\"it''''s\"[0].\"'') , (''\".\"(x\"')"

theorem Settings.sourcePath?_written_apostrophes :
    ({} : Settings).check = .ok () ∧ apostrophesPath.IsWritable ∧
      Ddl.virtualColumn {} "docs" "vc_x" apostrophesPath .text =
        .ok (.addColumn "docs" "vc_x" .text apostrophesText) ∧
      ({} : Settings).extraction.sourcePath? apostrophesText = some apostrophesPath ∧
      ({} : Settings).extraction.sourcePath? (ColumnMap.empty.resolve {} apostrophesPath).text =
        some apostrophesPath := by
  have hcheck : ({} : Settings).check = .ok () := rfl
  have hpath : apostrophesPath.IsWritable := by decide +kernel
  have hadded : Ddl.virtualColumn {} "docs" "vc_x" apostrophesPath .text =
      .ok (.addColumn "docs" "vc_x" .text apostrophesText) := by decide +kernel
  obtain ⟨hcolumn, hquery⟩ := sourcePath?_written hcheck hpath
  obtain ⟨expression, hwritten, hread⟩ := hcolumn "docs" "vc_x" .text rfl rfl
  rw [hadded] at hwritten
  cases hwritten
  exact ⟨hcheck, hpath, hadded, hread, hquery .empty rfl⟩

end DocumentQuery
