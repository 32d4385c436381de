import DocumentQuery.Proofs.Filter.Tree
import DocumentQuery.Sql.Statement

/-!
# Tokens of select statements

The tokens of a select statement are those of its keywords, names, columns and
clause, one after another. No name adds a token or takes one away.

* `Statement.filteredTokens`, `Statement.projectedTokens`: the tokens of the two
  kinds of statements;
* `Statement.spells_filtered`, `Statement.spells_projected`: their texts have
  these tokens.
-/

namespace DocumentQuery

open Sql (Token Spells separated_cons separated_nil spells_word spells_name)

/-- Texts with these tokens, with commas between them. -/
theorem Sql.Spells.intercalate {α : Type} {f : α → List Char} {g : α → List Token} (as : List α)
    (h : ∀ a ∈ as, Spells (f a) (g a)) :
    Spells ([',', ' '].intercalate (as.map f)) ([Token.comma].intercalate (as.map g)) := by
  induction as with
  | nil => exact .nil
  | cons a as ih =>
    have ha := h a List.mem_cons_self
    cases as with
    | nil => simpa only [List.map_cons, List.map_nil, List.intercalate_singleton] using ha
    | cons b bs =>
      have hrest := ih fun c hc => h c (List.mem_cons_of_mem _ hc)
      have := ha.listed hrest
      simpa only [List.map_cons, List.intercalate_cons_cons, List.append_assoc, List.cons_append,
        List.nil_append] using this

namespace Statement

variable {s : Settings} {columns : ColumnMap} {table : String} {statement : Statement}

/-- The tokens of a field: its column and its name. -/
def fieldTokens (s : Settings) (columns : ColumnMap) (field : String × Path) : List Token :=
  (columns.resolve s field.2).tokens ++ [.word "AS", .name field.1]

/-- The tokens of a statement for the documents that satisfy a clause. -/
def filteredTokens (s : Settings) (table : String) (clause : List Token) : List Token :=
  [.word "SELECT", .name s.keyColumn, .comma, .name s.documentColumn, .word "FROM", .name table,
    .word "WHERE"] ++ clause

/-- The tokens of a statement for fields, with or without a clause. -/
def projectedTokens (s : Settings) (columns : ColumnMap) (table : String)
    (fields : List (String × Path)) (clause : Option (List Token)) : List Token :=
  .word "SELECT" :: [Token.comma].intercalate (fields.map (fieldTokens s columns)) ++
    [.word "FROM", .name table] ++ clause.elim [] (.word "WHERE" :: ·)

/-- A statement with a clause has a checked table and the parameters of the clause. -/
theorem filtered_eq_ok {clause : Clause} (h : filtered s table clause = .ok statement) :
    statement.parameters = clause.parameters ∧ statement.sql =
      "SELECT " ++ Sql.quoteName s.keyColumn ++ ", " ++ Sql.quoteName s.documentColumn ++
        " FROM " ++ Sql.quoteName table ++ " WHERE " ++ clause.text := by
  obtain ⟨_, _, h⟩ := bind_eq_ok.mp h
  cases h
  exact ⟨rfl, rfl⟩

theorem spells_filtered {clause : Clause} {ts : List Token} (hclause : Spells clause.text.toList ts)
    (h : filtered s table clause = .ok statement) :
    Spells statement.sql.toList (filteredTokens s table ts) := by
  have hwhere := (spells_word "WHERE" rfl).spaced hclause
  have hfrom := (spells_word "FROM" rfl).spaced ((spells_name table).spaced hwhere)
  have hcolumns := (spells_name s.keyColumn).listed ((spells_name s.documentColumn).spaced hfrom)
  have hselect := (spells_word "SELECT" rfl).spaced hcolumns
  rw [(filtered_eq_ok h).2]
  simpa only [filteredTokens, String.toList_append, Sql.toList_quoteName, String.reduceToList,
    List.append_assoc, List.cons_append, List.nil_append] using hselect

/-- A statement for fields has a checked table and the parameters of its clause, if
there is one. -/
theorem projected_eq_ok {projection : Projection} {clause : Option Clause}
    (h : projected s columns table projection clause = .ok statement) :
    statement.parameters = clause.elim .empty (·.parameters) ∧ statement.sql =
      "SELECT " ++ ", ".intercalate (projection.fields.map (fieldText s columns)) ++ " FROM " ++
        Sql.quoteName table ++ clause.elim "" (" WHERE " ++ ·.text) := by
  obtain ⟨_, _, h⟩ := bind_eq_ok.mp h
  cases clause with
  | none =>
    dsimp only at h
    split at h <;> cases h
    exact ⟨rfl, by simp⟩
  | some clause =>
    dsimp only at h
    split at h <;> cases h
    exact ⟨rfl, by simp [String.append_assoc]⟩

theorem spells_fieldText (hs : s.IsChecked) (columns : ColumnMap) (field : String × Path) :
    Spells (fieldText s columns field).toList (fieldTokens s columns field) := by
  have hname := (spells_word "AS" rfl).spaced (spells_name field.1)
  have h := (columns.spells_resolve hs field.2).spaced hname
  simpa only [fieldText, fieldTokens, String.toList_append, Sql.toList_quoteName,
    String.reduceToList, List.append_assoc, List.cons_append, List.nil_append] using h

theorem spells_projected (hs : s.IsChecked) {projection : Projection} {clause : Option Clause}
    {ts : Option (List Token)} (hclause : Option.Rel (Spells ·.text.toList ·) clause ts)
    (h : projected s columns table projection clause = .ok statement) :
    Spells statement.sql.toList (projectedTokens s columns table projection.fields ts) := by
  have hwhere : Spells (clause.elim "" (" WHERE " ++ ·.text)).toList
      (ts.elim [] (.word "WHERE" :: ·)) := by
    cases hclause with
    | none => exact .nil
    | some hclause =>
      have h := (spells_word "WHERE" rfl).spaced hclause
      simpa only [Option.elim_some, String.toList_append, String.reduceToList, List.cons_append,
        List.nil_append] using h.blank
  have hseparated : Sql.Separated (clause.elim "" (" WHERE " ++ ·.text)).toList := by
    cases clause with
    | none => exact separated_nil
    | some clause =>
      rw [Option.elim_some, String.toList_append]
      exact separated_cons rfl _
  have hfrom := (spells_word "FROM" rfl).spaced ((spells_name table).append hwhere hseparated)
  have hfields := Spells.intercalate projection.fields
    fun field _ => spells_fieldText hs columns field
  have hselect := (spells_word "SELECT" rfl).spaced (hfields.spaced hfrom)
  rw [(projected_eq_ok h).2]
  simpa only [projectedTokens, String.toList_append, String.toList_intercalate, List.map_map,
    Function.comp_def, Sql.toList_quoteName, String.reduceToList, List.append_assoc,
    List.cons_append, List.nil_append] using hselect

end Statement

end DocumentQuery
