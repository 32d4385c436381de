import DocumentQuery.Filter.Clause
import DocumentQuery.Proofs.Filter.Condition
import DocumentQuery.Proofs.Sql.Parameters
import DocumentQuery.Proofs.Sql.Token

/-!
# Trees of conditions and their tokens

The text of a clause stands for a tree: conditions at the leaves, each on a
column with a placeholder for its value, joined by AND and OR. Its tokens are
the ones of the tree with every join in parentheses, however the names in it
are spelled.

* `ClauseTree`, `ClauseTree.tokens`: the trees and their tokens;
* `Filter.tree`, `Expr.clauseTree?`: the tree of a filter and of an expression;
* `Expr.clauseTree?_of_ofExpr?`: an expression that is a filter has its tree;
* `ClauseTree.placeholders`, `Filter.names_clause`: the placeholders of a tree, which
  name the parameters of a clause;
* `Filter.spells_clause`: the text of a clause has the tokens of its tree.
-/

namespace DocumentQuery

open Sql (Token Spells separated_cons spells_word spells_name spells_string
  spells_placeholder spells_operator)

/-- A tree of conditions on columns, the values of which have placeholders. -/
inductive ClauseTree
  | leaf (column : ColumnRef) (relation : Relation) (placeholder : String)
  | join (left : ClauseTree) (op : Connective) (right : ClauseTree)
  deriving DecidableEq, Repr

/-! ## The tree of an expression -/

/-- The number of conditions that an expression joins. -/
def Expr.conditionCount : Expr → Nat
  | .logical left _ right => left.conditionCount + right.conditionCount
  | _ => 1

/-- The tree of an expression whose first condition has the number `n`: AND and OR as
they are nested, and for each condition the column of its path on the left of the
operator, which is turned around where the path was on the right. -/
def Expr.clauseTree? [RegexLibrary] (resolve : Path → ColumnRef) (start : String) (n : Nat) :
    Expr → Option ClauseTree
  | .logical left op right => do
    let left' ← left.clauseTree? resolve start n
    let right' ← right.clauseTree? resolve start (n + left.conditionCount)
    return .join left' op right'
  | .compare left op right =>
    if left.isDocumentPath then
      left.path?.toOption.map fun path =>
        .leaf (resolve path) (.compare op) (Parameters.nameAt start n)
    else
      right.path?.toOption.map fun path =>
        .leaf (resolve path) (.compare op.mirrored) (Parameters.nameAt start n)
  | .call target _ _ =>
    target.path?.toOption.map fun path => .leaf (resolve path) .like (Parameters.nameAt start n)
  | _ => none

/-- The tree of a filter whose first condition has the number `n`. -/
def Filter.tree (resolve : Path → ColumnRef) (start : String) (n : Nat) : Filter → ClauseTree
  | .condition c => .leaf (resolve c.path) c.relation (Parameters.nameAt start n)
  | .join left op right =>
    .join (left.tree resolve start n) op (right.tree resolve start (n + left.size))

variable {resolve : Path → ColumnRef} {start : String}

variable (resolve start) in
/-- An expression that is a filter has as many conditions and the same tree. -/
theorem Expr.clauseTree?_of_ofExpr? [RegexLibrary] {e : Expr} {f : Filter} (h : Filter.ofExpr? e = .ok f)
    (n : Nat) :
    e.clauseTree? resolve start n = some (f.tree resolve start n) ∧ e.conditionCount = f.size := by
  induction e using Filter.ofExpr?.induct generalizing f n with
  | case1 left op right =>
    obtain ⟨c, hc, rfl⟩ := map_eq_ok.mp h
    refine ⟨?_, rfl⟩
    cases Condition.ofComparison_eq_ok.mp hc with
    | onLeft hleft _ hpath _ => simp [clauseTree?, hleft, hpath, Filter.tree, Except.toOption]
    | onRight hleft _ hpath _ => simp [clauseTree?, hleft, hpath, Filter.tree, Except.toOption]
  | case2 target method arguments =>
    obtain ⟨c, hc, rfl⟩ := map_eq_ok.mp h
    cases Condition.ofCall_eq_ok.mp hc with
    | like _ hpath _ =>
      exact ⟨by simp [clauseTree?, hpath, Filter.tree, Except.toOption], rfl⟩
  | case3 left op right ihl ihr =>
    obtain ⟨l, r, hl, hr, rfl⟩ := Filter.ofExpr?_logical_eq_ok.mp h
    obtain ⟨tl, cl⟩ := ihl hl n
    obtain ⟨tr, cr⟩ := ihr hr (n + l.size)
    refine ⟨?_, by rw [conditionCount, Filter.size, cl, cr]⟩
    rw [clauseTree?, tl, cl, tr]
    rfl
  | case4 e hcompare hcall hlogical =>
    rw [Filter.ofExpr?] at h
    · cases h
    · exact hcompare
    · exact hcall
    · exact hlogical

/-! ## Tokens -/

/-- The tokens of a reference to a column. -/
def ColumnRef.tokens : ColumnRef → List Token
  | .virtual column => [.name column]
  | .extract call path =>
    [.word call.function, .openParen, .name call.column, .comma, .string path.text, .closeParen]

/-- The tokens after the column of a condition. -/
def Relation.tokens (placeholder : String) : Relation → List Token
  | .compare op => [.operator op.sql, .placeholder placeholder]
  | .like => [.word "LIKE", .placeholder placeholder, .word "ESCAPE", .string "\\"]

/-- The tokens of a tree, every join in parentheses. -/
def ClauseTree.tokens : ClauseTree → List Token
  | .leaf column relation placeholder => column.tokens ++ relation.tokens placeholder
  | .join left op right =>
    .openParen :: left.tokens ++ .word op.sql :: right.tokens ++ [.closeParen]

/-! ## Placeholders -/

/-- The placeholders of a tree from left to right. -/
def ClauseTree.placeholders : ClauseTree → List String
  | .leaf _ _ placeholder => [placeholder]
  | .join left _ right => left.placeholders ++ right.placeholders

/-- The placeholders of a tree are those among its tokens. -/
theorem ClauseTree.placeholders_tokens (t : ClauseTree) :
    t.tokens.filterMap Token.placeholder? = t.placeholders := by
  induction t with
  | leaf column relation placeholder => cases column <;> cases relation <;> rfl
  | join left op right ihl ihr =>
    rw [tokens, placeholders, ← ihl, ← ihr, List.filterMap_append, List.cons_append,
      List.filterMap_cons_none rfl, List.filterMap_append, List.filterMap_cons_none rfl]
    simp [Token.placeholder?]

/-- The placeholders of a filter are numbered from left to right. -/
theorem Filter.placeholders_tree (f : Filter) (n : Nat) :
    (f.tree resolve start n).placeholders =
      (List.range' n f.size).map (Parameters.nameAt start) := by
  induction f generalizing n with
  | condition c => rfl
  | join left op right ihl ihr =>
    rw [tree, ClauseTree.placeholders, ihl, ihr, size, ← List.map_append, List.range'_append_1]

theorem Filter.length_values (f : Filter) : f.values.length = f.size := by
  induction f with
  | condition c => rfl
  | join left op right ihl ihr =>
    rw [size, ← ihl, ← ihr, values, conditions, List.map_append, List.length_append]
    rfl

/-- The parameters of a clause are named as the placeholders of its tree. -/
theorem Filter.names_clause (s : Settings) (columns : ColumnMap) (f : Filter) :
    (f.clause s columns).parameters.names =
      (f.tree (columns.resolve s) s.parameterPrefix 0).placeholders := by
  rw [placeholders_tree, clause, Parameters.names_number, length_values, List.range_eq_range']

/-! ## The text of a filter -/

theorem Sql.toList_quoteName (name : String) :
    (quoteName name).toList = Text.enclose '"' name.toList := by
  rw [quoteName, String.toList_ofList]

theorem Path.toList_literal (p : Path) : p.literal.toList = Text.enclose '\'' p.text.toList := by
  rw [literal, text, String.toList_ofList, String.toList_ofList]

theorem Extraction.spells_text {call : Extraction} (h : Text.isWord call.function.toList = true)
    (path : Path) : Spells (call.text path).toList (ColumnRef.extract call path).tokens := by
  have hcolumn := (spells_name call.column).listed (spells_string path.text).closed
  have hcall := (spells_word _ h).append hcolumn.openParen (separated_cons rfl _)
  simpa only [text, ColumnRef.tokens, String.toList_append, Sql.toList_quoteName,
    Path.toList_literal, String.reduceToList, List.append_assoc, List.cons_append,
    List.nil_append] using hcall

theorem ColumnMap.spells_resolve {s : Settings} (hs : s.IsChecked) (m : ColumnMap) (path : Path) :
    Spells (m.resolve s path).text.toList (m.resolve s path).tokens := by
  unfold resolve
  split
  · rw [ColumnRef.text, Sql.toList_quoteName]
    exact spells_name _
  · exact Extraction.spells_text (Sql.isWord_of_checkName hs.extractFunction) path

theorem Comparison.spells_sql (op : Comparison) : Spells op.sql.toList [.operator op.sql] := by
  cases op <;> exact spells_operator rfl rfl

/-- A condition has the tokens of its column before its own. -/
theorem Relation.spells_text {column placeholder : String} {ts : List Token}
    (hcolumn : Spells column.toList ts) (hp : Text.isWord placeholder.toList = true)
    (relation : Relation) :
    Spells (relation.text column ("@" ++ placeholder)).toList
      (ts ++ relation.tokens placeholder) := by
  cases relation with
  | compare op =>
    have h := hcolumn.spaced (op.spells_sql.spaced (spells_placeholder hp))
    simpa only [text, tokens, String.toList_append, String.reduceToList, List.append_assoc,
      List.cons_append, List.nil_append] using h
  | like =>
    have hescape := (spells_word "ESCAPE" rfl).spaced (spells_string "\\")
    have hlike := (spells_word "LIKE" rfl).spaced ((spells_placeholder hp).spaced hescape)
    have h := hcolumn.spaced hlike
    have hliteral : Text.enclose '\'' ['\\'] = ['\'', '\\', '\''] := rfl
    simpa only [text, tokens, hliteral, String.toList_append, String.reduceToList,
      List.append_assoc, List.cons_append, List.nil_append] using h

/-- The text of a filter has the tokens of its tree. -/
theorem Filter.spells_textFrom (hresolve : ∀ path, Spells (resolve path).text.toList
    (resolve path).tokens) (hstart : Text.isWord start.toList = true) (f : Filter) (n : Nat) :
    Spells (f.textFrom resolve start n).toList (f.tree resolve start n).tokens := by
  induction f generalizing n with
  | condition c =>
    exact Relation.spells_text (hresolve c.path) (Parameters.isWord_nameAt hstart n) c.relation
  | join left op right ihl ihr =>
    have hop : Text.isWord op.sql.toList = true := by cases op <;> rfl
    have hjoin := (spells_word _ hop).spaced (ihr (n + left.size)).closed
    have h := ((ihl n).spaced hjoin).openParen
    simpa only [textFrom, tree, ClauseTree.tokens, String.toList_append, String.reduceToList,
      List.append_assoc, List.cons_append, List.nil_append] using h

/-- The text of a clause has the tokens of its tree. -/
theorem Filter.spells_clause {s : Settings} (hs : s.IsChecked) (columns : ColumnMap) (f : Filter) :
    Spells (f.clause s columns).text.toList
      (f.tree (columns.resolve s) s.parameterPrefix 0).tokens :=
  f.spells_textFrom (columns.spells_resolve hs) (Sql.isWord_of_checkName hs.parameterPrefix) 0

end DocumentQuery
