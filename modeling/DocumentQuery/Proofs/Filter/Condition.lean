import DocumentQuery.Filter.Basic
import DocumentQuery.Proofs.Result

/-!
# Conditions

Which expressions are conditions, whatever is joined around them.

* `TextTest.method`: the method of each string predicate;
* `Expr.IsCondition`: which expressions are conditions, and which ones;
* `Condition.ofComparison_eq_ok`, `Condition.ofCall_eq_ok`: comparisons and calls;
* `Condition.ofExpr?_eq_ok`: any expression;
* `Filter.ofExpr?_logical_eq_ok`: filters joined by AND and OR.
-/

namespace DocumentQuery

variable {e left right target : Expr} {op : Comparison} {c : Condition}

/-- The method that asks for a string predicate. -/
def TextTest.method : TextTest → String
  | .contains => "Contains"
  | .startsWith => "StartsWith"
  | .endsWith => "EndsWith"

/-- An expression that is a condition: a comparison of which exactly one side is a document
path, with the operator turned around if that is the right one, or a string predicate on a
document path with one text. The value is what the other side or the needle comes to. -/
inductive Expr.IsCondition [RegexLibrary] : Expr → Condition → Prop
  | onLeft {left right : Expr} {op : Comparison} {path : Path} {value : Value}
    (hleft : left.isDocumentPath = true) (hright : right.isDocumentPath = false)
    (hpath : left.path? = .ok path) (hvalue : right.evaluate = .ok value) :
    IsCondition (.compare left op right) ⟨path, .compare op, value⟩
  | onRight {left right : Expr} {op : Comparison} {path : Path} {value : Value}
    (hleft : left.isDocumentPath = false) (hright : right.isDocumentPath = true)
    (hpath : right.path? = .ok path) (hvalue : left.evaluate = .ok value) :
    IsCondition (.compare left op right) ⟨path, .compare op.mirrored, value⟩
  | like {target needle : Expr} {test : TextTest} {path : Path} {text : String}
    (htarget : target.isDocumentPath = true) (hpath : target.path? = .ok path)
    (hneedle : needle.evaluate = .ok (.text text)) :
    IsCondition (.call target test.method [needle])
      ⟨path, .like, .text (String.ofList (test.pattern text.toList))⟩

theorem TextTest.ofMethod?_eq_some {method : String} {test : TextTest} :
    ofMethod? method = some test ↔ method = test.method := by
  constructor
  · intro h
    unfold ofMethod? at h
    split at h
    · cases h
      assumption
    split at h
    · cases h
      assumption
    split at h
    · cases h
      assumption
    · cases h
  · rintro rfl
    cases test <;> rfl

variable [RegexLibrary]

theorem Condition.ofComparison_eq_ok :
    ofComparison left op right = .ok c ↔ (Expr.compare left op right).IsCondition c := by
  constructor
  · intro h
    unfold ofComparison at h
    split at h
    · rename_i hleft hright
      obtain ⟨path, hpath, h⟩ := bind_eq_ok.mp h
      obtain ⟨value, hvalue, h⟩ := bind_eq_ok.mp h
      cases h
      exact .onLeft hleft hright hpath hvalue
    · rename_i hleft hright
      obtain ⟨path, hpath, h⟩ := bind_eq_ok.mp h
      obtain ⟨value, hvalue, h⟩ := bind_eq_ok.mp h
      cases h
      exact .onRight hleft hright hpath hvalue
    · cases h
    · cases h
  · intro h
    cases h with
    | onLeft hleft hright hpath hvalue =>
      simp only [ofComparison, hleft, hright, hpath, hvalue]
      rfl
    | onRight hleft hright hpath hvalue =>
      simp only [ofComparison, hleft, hright, hpath, hvalue]
      rfl

theorem Condition.ofCall_eq_ok {method : String} {arguments : List Expr} :
    ofCall target method arguments = .ok c ↔ (Expr.call target method arguments).IsCondition c := by
  constructor
  · intro h
    unfold ofCall at h
    split at h
    · cases h
    rename_i test htest
    obtain rfl := TextTest.ofMethod?_eq_some.mp htest
    split at h
    · split at h
      · rename_i htarget
        obtain ⟨path, hpath, h⟩ := bind_eq_ok.mp h
        obtain ⟨value, hneedle, h⟩ := bind_eq_ok.mp h
        split at h <;> cases h
        exact .like htarget hpath hneedle
      · cases h
    · cases h
  · intro h
    cases h with
    | like htarget hpath hneedle =>
      simp only [ofCall, TextTest.ofMethod?_eq_some.mpr rfl, htarget, hpath, hneedle]
      rfl

/-- The condition that an expression is. -/
def Condition.ofExpr? : Expr → Except Error Condition
  | .compare left op right => ofComparison left op right
  | .call target method arguments => ofCall target method arguments
  | e => .error (.expression (.node e.kind))

theorem Condition.ofExpr?_eq_ok : ofExpr? e = .ok c ↔ e.IsCondition c := by
  cases e with
  | compare left op right => exact ofComparison_eq_ok
  | call target method arguments => exact ofCall_eq_ok
  | _ =>
    constructor
    · intro h
      cases h
    · intro h
      cases h

/-- Both operands of AND and OR are filters. -/
theorem Filter.ofExpr?_logical_eq_ok {op : Connective} {f : Filter} :
    ofExpr? (.logical left op right) = .ok f ↔
      ∃ l r, ofExpr? left = .ok l ∧ ofExpr? right = .ok r ∧ .join l op r = f := by
  constructor
  · intro h
    obtain ⟨l, hl, h⟩ := bind_eq_ok.mp h
    obtain ⟨r, hr, h⟩ := bind_eq_ok.mp h
    cases h
    exact ⟨l, r, hl, hr, rfl⟩
  · rintro ⟨l, r, hl, hr, rfl⟩
    rw [ofExpr?, hl, hr]
    rfl

end DocumentQuery
