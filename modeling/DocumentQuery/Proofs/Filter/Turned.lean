import DocumentQuery.Proofs.Filter.Leaves
import DocumentQuery.Regex.Standard

/-!
# Comparisons turned around

A path may stand on either side of a comparison: `20 < x.Price` says what
`x.Price > 20` says, and it is compiled to the same clause. So in any filter any
of the comparisons can be turned around, and nothing else changes.

* `Expr.turned`: a comparison with its operands swapped and its operator mirrored;
* `Expr.turn`: an expression with some of its leaves turned around;
* `Expr.IsCondition.turned`: a comparison is the same condition either way;
* `Clause.ofExpr?_turn`: an expression has the same clause either way.
-/

namespace DocumentQuery

variable {e : Expr} {c : Condition}

@[simp] theorem Comparison.mirrored_mirrored (op : Comparison) : op.mirrored.mirrored = op := by
  cases op <;> rfl

namespace Expr

/-- A comparison with its operands swapped and its operator mirrored; anything else as it is. -/
def turned : Expr → Expr
  | .compare left op right => .compare right op.mirrored left
  | e => e

@[simp] theorem turned_turned (e : Expr) : e.turned.turned = e := by
  cases e with
  | compare left op right => simp only [turned, Comparison.mirrored_mirrored]
  | _ => rfl

@[simp] theorem kind_turned (e : Expr) : e.turned.kind = e.kind := by
  cases e <;> rfl

/-- An expression with those of its leaves turned around whose numbers are chosen. The leaves are
numbered from left to right. -/
def turn (chosen : Nat → Bool) : Expr → Expr
  | .logical left op right =>
    .logical (left.turn chosen) op (right.turn fun n => chosen (n + left.leaves.length))
  | e => if chosen 0 then e.turned else e

theorem turn_leaf (chosen : Nat → Bool) (h : e.kind ≠ .logical) :
    e.turn chosen = if chosen 0 then e.turned else e := by
  cases e with
  | logical left op right => exact absurd rfl h
  | _ => rfl

/-- The side that is a path, the other side's value and what the operator comes to are the same
when the sides change places. -/
theorem IsCondition.turned [RegexLibrary] (h : e.IsCondition c) : e.turned.IsCondition c := by
  cases h with
  | @onLeft left right op path value hleft hright hpath hvalue =>
    have h := @onRight _ right left op.mirrored path value hright hleft hpath hvalue
    rwa [Comparison.mirrored_mirrored] at h
  | onRight hleft hright hpath hvalue => exact .onLeft hright hleft hpath hvalue
  | like htarget hpath hneedle => exact .like htarget hpath hneedle

theorem isCondition_turned [RegexLibrary] : e.turned.IsCondition c ↔ e.IsCondition c := by
  refine ⟨fun h => ?_, IsCondition.turned⟩
  have h := h.turned
  rwa [turned_turned] at h

end Expr

/-- A leaf is the same filter either way, or none either way. -/
theorem Filter.ofExpr?_turned_eq_ok [RegexLibrary] {f : Filter} (h : e.kind ≠ .logical) :
    ofExpr? e.turned = .ok f ↔ ofExpr? e = .ok f := by
  rw [ofExpr?_leaf h, ofExpr?_leaf (e.kind_turned.trans_ne h), map_eq_ok, map_eq_ok]
  simp only [Condition.ofExpr?_eq_ok, Expr.isCondition_turned]

theorem Filter.ofExpr?_turn_eq_ok [RegexLibrary] (chosen : Nat → Bool) (e : Expr) (f : Filter) :
    ofExpr? (e.turn chosen) = .ok f ↔ ofExpr? e = .ok f := by
  -- The numbers go on in the right operand, so another choice is made there.
  induction e using Expr.leaves.induct generalizing chosen f with
  | case1 left op right ihl ihr =>
    rw [Expr.turn, ofExpr?_logical_eq_ok, ofExpr?_logical_eq_ok]
    simp only [ihl, ihr]
  | case2 e he =>
    have hkind := Expr.kind_ne_logical he
    rw [Expr.turn_leaf chosen hkind]
    split
    · exact ofExpr?_turned_eq_ok hkind
    · rfl

/-- An expression has a clause exactly if it has one when any of its comparisons are turned
around, and then it is this clause: with the same text, and with the same values under the
same names. -/
theorem Clause.ofExpr?_turn [RegexLibrary] (s : Settings) (columns : ColumnMap) (chosen : Nat → Bool) (e : Expr)
    (clause : Clause) :
    ofExpr? s columns (e.turn chosen) = .ok clause ↔ ofExpr? s columns e = .ok clause := by
  rw [ofExpr?, ofExpr?, map_eq_ok, map_eq_ok]
  simp only [Filter.ofExpr?_turn_eq_ok]

/-- The second leaf is turned around, and the text is the same. -/
example :
    let price := Expr.compare (.member .parameter "p") .greater (.constant (.integer 20))
    let turned := Expr.compare (.constant (.integer 20)) .less (.member .parameter "p")
    (Expr.logical price .either price).turn (· == 1) = .logical price .either turned ∧
      (Clause.ofExpr? {} .empty (.logical price .either turned)).map (·.text) =
        .ok "(json_extract(\"data\", '$.p') > @p0 OR json_extract(\"data\", '$.p') > @p1)" :=
  ⟨rfl, by decide +kernel⟩

end DocumentQuery
