import DocumentQuery.Proofs.Filter.Tree
import DocumentQuery.Proofs.Path.RoundTrip
import DocumentQuery.Regex.Standard
import DocumentQuery.Sql.Statement

/-!
# Values stay out of the text

The text of a clause says nothing of the values of the caller. Two expressions
that ask the same of the same paths have the same text, whatever they compare
the paths with and on whichever side of an operator the value stands.

* `Filter.withoutValues`: a filter that keeps its paths and relations only;
* `Filter.text_clause_withoutValues`, `Filter.names_clause_withoutValues`: the
  text of its clause and the names of its parameters are the same;
* `Expr.Asks`, `Expr.AsksAlike`: what a condition asks of the document, and
  expressions that ask the same;
* `Expr.AsksAlike.withoutValues_eq`: they are the same filter but for the values;
* `Clause.text_eq_of_asksAlike`: they have the same text.
-/

namespace DocumentQuery

variable {e e' left right : Expr} {op : Comparison} {path : Path} {relation : Relation}

/-! ## Filters without their values -/

namespace Filter

/-- A filter with the null value in the place of every value. -/
def withoutValues : Filter → Filter
  | .condition c => .condition { c with value := .null }
  | .join left op right => .join left.withoutValues op right.withoutValues

theorem size_withoutValues (f : Filter) : f.withoutValues.size = f.size := by
  induction f with
  | condition c => rfl
  | join left op right ihl ihr => rw [withoutValues, size, size, ihl, ihr]

/-- The text holds the number of each value only. -/
theorem textFrom_withoutValues (resolve : Path → ColumnRef) (start : String) (f : Filter)
    (n : Nat) : f.withoutValues.textFrom resolve start n = f.textFrom resolve start n := by
  induction f generalizing n with
  | condition c => rfl
  | join left op right ihl ihr =>
    rw [withoutValues, textFrom, textFrom, size_withoutValues, ihl, ihr]

variable (s : Settings) (columns : ColumnMap)

theorem text_clause_withoutValues (f : Filter) :
    (f.withoutValues.clause s columns).text = (f.clause s columns).text :=
  textFrom_withoutValues _ _ f 0

theorem names_clause_withoutValues (f : Filter) :
    (f.withoutValues.clause s columns).parameters.names =
      (f.clause s columns).parameters.names := by
  rw [names_clause, names_clause, placeholders_tree, placeholders_tree, size_withoutValues]

end Filter

/-! ## What an expression asks -/

/-- What a comparison or a string predicate asks of the document: the path, and its relation
to the value. The path stands on the left of the operator, which is turned around where it
was on the right. All string predicates ask for the match of a pattern. -/
inductive Expr.Asks [RegexLibrary] : Expr → Path → Relation → Prop
  | onLeft {left right : Expr} {op : Comparison} {path : Path} (h : left.path? = .ok path) :
    Asks (.compare left op right) path (.compare op)
  | onRight {left right : Expr} {op : Comparison} {path : Path} (h : right.path? = .ok path) :
    Asks (.compare left op right) path (.compare op.mirrored)
  | like {target : Expr} {method : String} {arguments : List Expr} {path : Path}
    (h : target.path? = .ok path) : Asks (.call target method arguments) path .like

/-- Two expressions join conditions in the same way, and each condition of the one asks the
same as the condition of the other in its place. -/
inductive Expr.AsksAlike [RegexLibrary] : Expr → Expr → Prop
  | condition {e e' : Expr} {path : Path} {relation : Relation} (h : e.Asks path relation)
    (h' : e'.Asks path relation) : AsksAlike e e'
  | join {left left' right right' : Expr} (op : Connective) (hl : AsksAlike left left')
    (hr : AsksAlike right right') : AsksAlike (.logical left op right) (.logical left' op right')

/-- The filter of an expression has the condition that the expression asks. -/
theorem Expr.Asks.withoutValues_eq [RegexLibrary] (h : e.Asks path relation) {f : Filter}
    (hf : Filter.ofExpr? e = .ok f) : f.withoutValues = .condition ⟨path, relation, .null⟩ := by
  cases h with
  | onLeft hpath =>
    obtain ⟨c, hc, rfl⟩ := map_eq_ok.mp hf
    have hleft := isDocumentPath_of_path? hpath
    cases Condition.ofComparison_eq_ok.mp hc with
    | onLeft _ _ hp _ =>
      rw [hpath] at hp
      cases hp
      rfl
    | onRight hnot _ _ _ =>
      rw [hleft] at hnot
      cases hnot
  | onRight hpath =>
    obtain ⟨c, hc, rfl⟩ := map_eq_ok.mp hf
    have hright := isDocumentPath_of_path? hpath
    cases Condition.ofComparison_eq_ok.mp hc with
    | onLeft _ hnot _ _ =>
      rw [hright] at hnot
      cases hnot
    | onRight _ _ hp _ =>
      rw [hpath] at hp
      cases hp
      rfl
  | like hpath =>
    obtain ⟨c, hc, rfl⟩ := map_eq_ok.mp hf
    cases Condition.ofCall_eq_ok.mp hc with
    | like _ hp _ =>
      rw [hpath] at hp
      cases hp
      rfl

/-- Expressions that ask alike are the same filter but for the values. -/
theorem Expr.AsksAlike.withoutValues_eq [RegexLibrary] (h : e.AsksAlike e') {f f' : Filter}
    (hf : Filter.ofExpr? e = .ok f) (hf' : Filter.ofExpr? e' = .ok f') :
    f.withoutValues = f'.withoutValues := by
  induction h generalizing f f' with
  | condition h h' => rw [h.withoutValues_eq hf, h'.withoutValues_eq hf']
  | join op _ _ ihl ihr =>
    obtain ⟨l, r, hl, hr, rfl⟩ := Filter.ofExpr?_logical_eq_ok.mp hf
    obtain ⟨l', r', hl', hr', rfl⟩ := Filter.ofExpr?_logical_eq_ok.mp hf'
    rw [Filter.withoutValues, Filter.withoutValues, ihl hl hl', ihr hr hr']

/-- Two expressions that have clauses and ask alike have the same text with the same names of
parameters, and the statements for the documents that satisfy them have the same text. -/
theorem Clause.text_eq_of_asksAlike [RegexLibrary] {s : Settings} {columns : ColumnMap} {clause clause' : Clause}
    (h : Clause.ofExpr? s columns e = .ok clause) (h' : Clause.ofExpr? s columns e' = .ok clause')
    (halike : e.AsksAlike e') :
    clause.text = clause'.text ∧ clause.parameters.names = clause'.parameters.names ∧
      ∀ table, (Statement.filtered s table clause).map Statement.sql =
        (Statement.filtered s table clause').map Statement.sql := by
  obtain ⟨f, hf, rfl⟩ := map_eq_ok.mp h
  obtain ⟨f', hf', rfl⟩ := map_eq_ok.mp h'
  have hvalues := halike.withoutValues_eq hf hf'
  have htext : (f.clause s columns).text = (f'.clause s columns).text := by
    rw [← f.text_clause_withoutValues, hvalues, f'.text_clause_withoutValues]
  have hnames : (f.clause s columns).parameters.names = (f'.clause s columns).parameters.names := by
    rw [← f.names_clause_withoutValues, hvalues, f'.names_clause_withoutValues]
  refine ⟨htext, hnames, fun table => ?_⟩
  rw [Statement.filtered, Statement.filtered, htext]
  cases Sql.checkName table <;> rfl

/-- A price that is at least 20, and a tag that contains a text. -/
def plainFilter : Expr :=
  .logical (.compare (.member .parameter "Price") .greaterOrEqual (.constant (.integer 20))) .both
    (.call (.index (.member .parameter "Tags") (.constant (.integer 0))) "Contains"
      [.constant (.text "dge")])

/-- The same paths with a folded truth value on the left of the operator, a captured
position, another string predicate and a needle that looks like a part of the text. -/
def foldedFilter : Expr :=
  .logical
    (.compare (.logical (.constant (.boolean true)) .both (.constant (.boolean false)))
      .lessOrEqual (.member .parameter "Price"))
    .both
    (.call (.index (.member .parameter "Tags") (.captured "first" (.number (.natural 0))))
      "EndsWith"
      [.member (.captured "filter" (.ofMembers [("end", .string "' OR @p0 = '")])) "end"])

def plainClause : Clause where
  text := "(json_extract(\"data\", '$.Price') >= @p0 AND " ++
    "json_extract(\"data\", '$.Tags[0]') LIKE @p1 ESCAPE '\\')"
  parameters := ⟨[("p0", .integer 20), ("p1", .text "%dge%")]⟩

def foldedClause : Clause where
  text := plainClause.text
  parameters := ⟨[("p0", .boolean false), ("p1", .text "%' OR @p0 = '")]⟩

theorem Clause.text_eq_of_asksAlike_folded :
    Clause.ofExpr? {} .empty plainFilter = .ok plainClause ∧
      Clause.ofExpr? {} .empty foldedFilter = .ok foldedClause ∧
      plainFilter.AsksAlike foldedFilter ∧ plainClause.text = foldedClause.text ∧
      (Statement.filtered {} "docs" plainClause).map Statement.sql =
        (Statement.filtered {} "docs" foldedClause).map Statement.sql := by
  have hplain : Clause.ofExpr? {} .empty plainFilter = .ok plainClause := by decide +kernel
  have hfolded : Clause.ofExpr? {} .empty foldedFilter = .ok foldedClause := by decide +kernel
  have hprice : (Expr.member .parameter "Price").path? = .ok ⟨[.field "Price"]⟩ := rfl
  have htag : (Expr.index (.member .parameter "Tags") (.constant (.integer 0))).path? =
      .ok ⟨[.field "Tags", .index 0]⟩ := rfl
  have hfirst : (Expr.index (.member .parameter "Tags")
      (.captured "first" (.number (.natural 0)))).path? =
      .ok ⟨[.field "Tags", .index 0]⟩ := rfl
  have halike : plainFilter.AsksAlike foldedFilter :=
    .join .both (.condition (.onLeft hprice) (.onRight hprice))
      (.condition (.like htag) (.like hfirst))
  obtain ⟨htext, _, hstatement⟩ := Clause.text_eq_of_asksAlike hplain hfolded halike
  exact ⟨hplain, hfolded, halike, htext, hstatement "docs"⟩

end DocumentQuery
