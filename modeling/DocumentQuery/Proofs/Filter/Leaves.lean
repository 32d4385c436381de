import DocumentQuery.Filter.Clause
import DocumentQuery.Proofs.Filter.Condition
import DocumentQuery.Proofs.Sql.Parameters
import DocumentQuery.Regex.Standard

/-!
# Leaves of a filter

A filter is compiled leaf by leaf, from left to right, whatever AND and OR say:
every leaf has to be a condition, each one binds its own value, and the first
leaf that is no condition decides the error.

* `Expr.leaves`: the outermost nodes that are neither AND nor OR;
* `Filter.conditions_ofExpr?`: the conditions of an expression are those of its leaves;
* `Clause.ofExpr?_leaves`: which expressions have clauses, with which values, and
  the errors of the others.
-/

namespace DocumentQuery

variable {e : Expr}

/-! ## Leaves -/

/-- The outermost nodes that are neither AND nor OR, from left to right. -/
def Expr.leaves : Expr → List Expr
  | .logical left _ right => left.leaves ++ right.leaves
  | e => [e]

theorem Expr.kind_ne_logical (h : ∀ left op right, e = .logical left op right → False) :
    e.kind ≠ .logical := by
  intro hkind
  cases e <;> cases hkind
  exact h _ _ _ rfl

theorem Expr.kind_of_mem_leaves {leaf : Expr} (h : leaf ∈ e.leaves) : leaf.kind ≠ .logical := by
  induction e using Expr.leaves.induct with
  | case1 left op right ihl ihr =>
    rw [leaves, List.mem_append] at h
    exact h.elim ihl ihr
  | case2 e he =>
    rw [leaves, List.mem_singleton] at h
    · subst h
      exact kind_ne_logical he
    · exact he

section Library

variable [RegexLibrary]

/-- A leaf is the filter of its own condition. -/
theorem Filter.ofExpr?_leaf (h : e.kind ≠ .logical) :
    ofExpr? e = (Condition.ofExpr? e).map .condition := by
  cases e with
  | logical left op right => exact absurd rfl h
  | _ => rfl

/-- The conditions of an expression are those of its leaves. AND and OR have no part in them. -/
theorem Filter.conditions_ofExpr? (e : Expr) :
    (ofExpr? e).map conditions = e.leaves.mapM Condition.ofExpr? := by
  induction e using Expr.leaves.induct with
  | case1 left op right ihl ihr =>
    rw [ofExpr?, Expr.leaves, List.mapM_append, ← ihl, ← ihr]
    cases ofExpr? left with
    | error fault => rfl
    | ok l => cases ofExpr? right <;> rfl
  | case2 e he =>
    rw [Expr.leaves, List.mapM_cons, List.mapM_nil, ofExpr?_leaf (Expr.kind_ne_logical he)]
    · cases Condition.ofExpr? e <;> rfl
    · exact he

theorem Filter.exists_ofExpr?_eq_ok :
    (∃ f, ofExpr? e = .ok f) ↔ ∀ leaf ∈ e.leaves, ∃ c, leaf.IsCondition c := by
  rw [← exists_map_eq_ok (f := conditions), conditions_ofExpr?, exists_mapM_eq_ok]
  simp only [Condition.ofExpr?_eq_ok]

/-- The conditions of a filter are its leaves, one by one. -/
theorem Filter.isCondition_of_ofExpr? {f : Filter} (h : ofExpr? e = .ok f) :
    List.Forall₂ Expr.IsCondition e.leaves f.conditions := by
  have hmap : e.leaves.mapM Condition.ofExpr? = .ok f.conditions := by
    rw [← conditions_ofExpr?, h]
    rfl
  exact (mapM_eq_ok.mp hmap).imp fun _ _ => Condition.ofExpr?_eq_ok.mp

/-- The first leaf that is no filter decides the error. -/
theorem Filter.ofExpr?_eq_error {fault : Error} :
    ofExpr? e = .error fault ↔ ∃ before leaf after, e.leaves = before ++ leaf :: after ∧
      (∀ earlier ∈ before, ∃ f, ofExpr? earlier = .ok f) ∧ ofExpr? leaf = .error fault := by
  rw [← map_eq_error (f := conditions), conditions_ofExpr?, mapM_eq_error]
  refine exists_congr fun before => exists_congr fun leaf => exists_congr fun after => ?_
  refine and_congr_right fun hsplit => and_congr ?_ ?_
  · refine forall₂_congr fun earlier hearlier => ?_
    have hkind : earlier.kind ≠ .logical :=
      Expr.kind_of_mem_leaves (hsplit ▸ List.mem_append_left _ hearlier)
    rw [ofExpr?_leaf hkind, exists_map_eq_ok]
  · have hkind : leaf.kind ≠ .logical :=
      Expr.kind_of_mem_leaves (hsplit ▸ List.mem_append_right _ List.mem_cons_self)
    rw [ofExpr?_leaf hkind, map_eq_error]

/-! ## Clauses -/

omit [RegexLibrary] in
theorem Filter.values_clause (s : Settings) (columns : ColumnMap) (f : Filter) :
    (f.clause s columns).parameters.values = f.conditions.map Condition.value := by
  rw [clause, Parameters.values, Parameters.entries_number, Parameters.values_numbered, values]

theorem Clause.exists_ofExpr?_eq_ok {s : Settings} {columns : ColumnMap} :
    (∃ clause, ofExpr? s columns e = .ok clause) ↔ ∃ f, Filter.ofExpr? e = .ok f := exists_map_eq_ok

theorem Clause.ofExpr?_eq_error {s : Settings} {columns : ColumnMap} {fault : Error} :
    ofExpr? s columns e = .error fault ↔ Filter.ofExpr? e = .error fault := map_eq_error

/-- An expression has a clause exactly if every leaf of it is a condition, and then the
parameters are the values of these conditions in order. Otherwise the error is the one that
the first leaf without a clause has alone. -/
theorem Clause.ofExpr?_leaves (s : Settings) (columns : ColumnMap) (e : Expr) :
    ((∃ clause, ofExpr? s columns e = .ok clause) ↔ ∀ leaf ∈ e.leaves, ∃ c, leaf.IsCondition c) ∧
      (∀ clause, ofExpr? s columns e = .ok clause →
        ∃ cs, List.Forall₂ Expr.IsCondition e.leaves cs ∧
          clause.parameters.values = cs.map Condition.value) ∧
      ∀ fault, ofExpr? s columns e = .error fault ↔
        ∃ before leaf after, e.leaves = before ++ leaf :: after ∧
          (∀ earlier ∈ before, ∃ clause, ofExpr? s columns earlier = .ok clause) ∧
          ofExpr? s columns leaf = .error fault := by
  refine ⟨?_, fun clause h => ?_, fun fault => ?_⟩
  · rw [exists_ofExpr?_eq_ok, Filter.exists_ofExpr?_eq_ok]
  · obtain ⟨f, hf, rfl⟩ := map_eq_ok.mp h
    exact ⟨f.conditions, Filter.isCondition_of_ofExpr? hf, f.values_clause s columns⟩
  · simp only [exists_ofExpr?_eq_ok, ofExpr?_eq_error]
    exact Filter.ofExpr?_eq_error

end Library

/-- A true operand of OR is no condition, so it is the error of the whole. -/
example : Clause.ofExpr? {} .empty (.logical (.constant (.boolean true)) .either .parameter) =
    .error (.expression (.node .constant)) := rfl

end DocumentQuery
