import DocumentQuery.Proofs.Sql.Placeholders
import DocumentQuery.Proofs.Statement.Tokens
import DocumentQuery.Regex.Standard

/-!
# Placeholders of select statements

Compiling a filter numbers its placeholders, and numbering them in the text of
a statement finds the same ones in the same order, whatever quotes, brackets
and at signs the names in the statement contain.

* `Statement.IsNumbered`: the placeholders of a statement are its parameters,
  numbered from zero;
* `Statement.isNumbered_select`: this holds of every select statement;
* `Statement.select_numbered`: numbering the placeholders succeeds and gives
  each its own position.
-/

namespace DocumentQuery

open Sql (Token Spells)

/-- Lists with nothing to find, and a separator with nothing to find, put together. -/
theorem filterMap_intercalate {α β : Type} {f : α → Option β} {separator : α}
    (hseparator : f separator = none) {ls : List (List α)} (h : ∀ l ∈ ls, l.filterMap f = []) :
    ([separator].intercalate ls).filterMap f = [] := by
  induction ls with
  | nil => rfl
  | cons l ls ih =>
    have hl := h l List.mem_cons_self
    have hrest := ih fun m hm => h m (List.mem_cons_of_mem _ hm)
    cases ls with
    | nil => rw [List.intercalate_singleton, hl]
    | cons m ms =>
      rw [List.intercalate_cons_cons, List.filterMap_append, List.filterMap_append, hl, hrest,
        List.filterMap_cons_none hseparator]
      rfl

namespace Statement

variable {s : Settings} {columns : ColumnMap} {table : String} {statement : Statement}

theorem placeholders_filteredTokens (ts : List Token) :
    (filteredTokens s table ts).filterMap Token.placeholder? = ts.filterMap Token.placeholder? :=
  rfl

theorem placeholders_fieldTokens (field : String × Path) :
    (fieldTokens s columns field).filterMap Token.placeholder? = [] := by
  rw [fieldTokens, List.filterMap_append]
  cases columns.resolve s field.2 <;> rfl

theorem placeholders_projectedTokens (fields : List (String × Path)) (ts : Option (List Token)) :
    (projectedTokens s columns table fields ts).filterMap Token.placeholder? =
      (ts.getD []).filterMap Token.placeholder? := by
  have hfields : ([Token.comma].intercalate (fields.map (fieldTokens s columns))).filterMap
      Token.placeholder? = [] := by
    refine filterMap_intercalate rfl fun l hl => ?_
    obtain ⟨field, _, rfl⟩ := List.mem_map.mp hl
    exact placeholders_fieldTokens field
  rw [projectedTokens, List.filterMap_append, List.filterMap_append, List.filterMap_cons_none rfl,
    hfields]
  cases ts <;> rfl

/-- The clause of an expression, if there is one, is the clause of a filter. -/
theorem mapM_clause_eq_ok [RegexLibrary] {filter : Option Expr} {clause : Option Clause}
    (h : filter.mapM (Clause.ofExpr? s columns) = .ok clause) :
    ∃ f : Option Filter, clause = f.map (·.clause s columns) := by
  cases filter with
  | none =>
    cases h
    exact ⟨none, rfl⟩
  | some e =>
    obtain ⟨c, hc, h⟩ := bind_eq_ok.mp h
    obtain ⟨f, _, rfl⟩ := map_eq_ok.mp hc
    cases h
    exact ⟨some f, rfl⟩

/-- The tokens of the clause of a filter. -/
def clauseTokens (s : Settings) (columns : ColumnMap) (f : Filter) : List Token :=
  (f.tree (columns.resolve s) s.parameterPrefix 0).tokens

theorem names_clause_eq_placeholders (f : Filter) :
    (clauseTokens s columns f).filterMap Token.placeholder? =
      (f.clause s columns).parameters.names := by
  rw [clauseTokens, ClauseTree.placeholders_tokens, f.names_clause]

/-- A statement has tokens the placeholders of which are its parameters, and these are
numbered from zero. -/
def IsNumbered (start : String) (statement : Statement) : Prop :=
  ∃ ts n, Spells statement.sql.toList ts ∧
    ts.filterMap Token.placeholder? = statement.parameters.names ∧
    statement.parameters.names = (List.range n).map (Parameters.nameAt start)

theorem isNumbered_filtered (hs : s.IsChecked) {f : Filter}
    (h : filtered s table (f.clause s columns) = .ok statement) :
    IsNumbered s.parameterPrefix statement := by
  have hp := (filtered_eq_ok h).1
  refine ⟨_, f.size, spells_filtered (f.spells_clause hs columns) h, ?_, ?_⟩
  · rw [placeholders_filteredTokens, hp]
    exact names_clause_eq_placeholders f
  · rw [hp, f.names_clause, f.placeholders_tree, List.range_eq_range']

theorem isNumbered_projected (hs : s.IsChecked) {projection : Projection} {f : Option Filter}
    (h : projected s columns table projection (f.map (·.clause s columns)) = .ok statement) :
    IsNumbered s.parameterPrefix statement := by
  have hp := (projected_eq_ok h).1
  cases f with
  | none =>
    refine ⟨_, 0, spells_projected hs .none h, ?_, ?_⟩
    · rw [placeholders_projectedTokens, hp]
      rfl
    · rw [hp]
      rfl
  | some f =>
    refine ⟨_, f.size, spells_projected hs (.some (f.spells_clause hs columns)) h, ?_, ?_⟩
    · rw [placeholders_projectedTokens, hp]
      exact names_clause_eq_placeholders f
    · rw [hp]
      simp only [Option.map_some, Option.elim_some]
      rw [f.names_clause, f.placeholders_tree, List.range_eq_range']

theorem isNumbered_select [RegexLibrary] (hs : s.IsChecked) {projection filter : Option Expr}
    (h : select s columns table projection filter = .ok statement) :
    IsNumbered s.parameterPrefix statement := by
  obtain ⟨clause, hclause, h⟩ := bind_eq_ok.mp h
  obtain ⟨f, rfl⟩ := mapM_clause_eq_ok hclause
  cases projection with
  | some e =>
    obtain ⟨projection, _, h⟩ := bind_eq_ok.mp h
    exact isNumbered_projected hs h
  | none =>
    cases f with
    | none => exact isNumbered_projected (f := none) hs h
    | some f => exact isNumbered_filtered hs h

/-- A select statement has one placeholder outside quotes for each of its parameters, in the
same order; the parameters are numbered from zero and named differently; and numbering
the placeholders turns each into its own position and leaves every other character as it
is. -/
theorem select_numbered [RegexLibrary] (hs : s.check = .ok ()) {projection filter : Option Expr}
    (h : select s columns table projection filter = .ok statement) :
    (Sql.pieces statement.sql.toList).flatMap Sql.Piece.chars = statement.sql.toList ∧
      Sql.placeholders statement.sql.toList = statement.parameters.names ∧
      statement.parameters.names =
        (List.range statement.parameters.size).map (Parameters.nameAt s.parameterPrefix) ∧
      statement.parameters.names.Nodup ∧
      Sql.numberPlaceholders statement.sql statement.parameters =
        .ok (String.ofList (Sql.inOrder 1 (Sql.pieces statement.sql.toList))) := by
  obtain ⟨ts, n, hspells, htokens, hnames⟩ := isNumbered_select (Settings.isChecked hs) h
  have hplaceholders : Sql.placeholders statement.sql.toList = statement.parameters.names := by
    rw [Sql.placeholders_tokens hspells.tokens_eq, htokens]
  have hsize : statement.parameters.size = n := by
    have := congrArg List.length hnames
    simpa [Parameters.names, Parameters.size] using this
  have hnodup : statement.parameters.names.Nodup := by
    rw [hnames]
    exact List.pairwise_map.mpr (List.nodup_range.imp fun hne heq =>
      hne (Parameters.nameAt_injective _ heq))
  refine ⟨Sql.flatMap_chars_pieces _, hplaceholders, by rw [hsize]; exact hnames, hnodup, ?_⟩
  rw [Sql.numberPlaceholders, Sql.numberFrom_eq,
    Sql.numberPieces_inOrder (k := 0) hnodup hplaceholders]
  rfl

/-- A column whose path and name have quotes, a bracket and at signs. -/
def quotedColumns : ColumnMap := .ofList [⟨⟨[.field "a'@x"]⟩, "v\"@p9[", .text⟩]

/-- A condition on this column, and another with the path on the right. -/
def quotedFilter : Expr :=
  .logical (.compare (.member .parameter "a'@x") .equal (.constant (.integer 1))) .both
    (.compare (.constant (.integer 2)) .less (.member .parameter "c"))

/-- A field whose name could be taken for a placeholder in brackets. -/
def quotedProjection : Expr := .construct none [("it's [@q]", .member .parameter "b")]

def quotedStatement : Statement where
  sql := "SELECT json_extract(\"data\", '$.b') AS \"it's [@q]\" FROM \"docs\" " ++
    "WHERE (\"v\"\"@p9[\" = @p0 AND json_extract(\"data\", '$.c') > @p1)"
  parameters := ⟨[("p0", .integer 1), ("p1", .integer 2)]⟩

theorem select_numbered_quoted :
    ({} : Settings).check = .ok () ∧
      select {} quotedColumns "docs" quotedProjection quotedFilter = .ok quotedStatement ∧
      Sql.placeholders quotedStatement.sql.toList = ["p0", "p1"] ∧
      Sql.numberPlaceholders quotedStatement.sql quotedStatement.parameters =
        .ok ("SELECT json_extract(\"data\", '$.b') AS \"it's [@q]\" FROM \"docs\" " ++
          "WHERE (\"v\"\"@p9[\" = ?1 AND json_extract(\"data\", '$.c') > ?2)") := by
  have hcheck : ({} : Settings).check = .ok () := rfl
  have hselect : select {} quotedColumns "docs" quotedProjection quotedFilter =
      .ok quotedStatement := toOption_eq_some.mp (by decide +kernel)
  obtain ⟨_, hplaceholders, _, _, hnumber⟩ := select_numbered hcheck hselect
  refine ⟨hcheck, hselect, hplaceholders, ?_⟩
  rw [hnumber]
  refine congrArg Except.ok ?_
  decide +kernel

end Statement

end DocumentQuery
