import DocumentQuery.Expr.Basic

/-!
# Building expressions

Names for the ways in which callers put expressions together, so that a filter
reads as it is said: `(x.member "Price").greaterThan (.constant (.integer 20))`.

* `Expr.item`: an access at a constant position;
* `Expr.equals` and the other comparisons, `Expr.and`, `Expr.or`;
* `Expr.contains`, `Expr.startsWith`, `Expr.endsWith`: the string predicates;
* `Expr.object`, `Expr.withField`: objects, field by field.
-/

namespace DocumentQuery.Expr

/-- The item of an array at a constant position. -/
def item (e : Expr) (position : Int64) : Expr := .index e (.constant (.integer position))

/-- `e == other` -/
def equals (e other : Expr) : Expr := .compare e .equal other

/-- `e != other` -/
def notEquals (e other : Expr) : Expr := .compare e .notEqual other

/-- `e > other` -/
def greaterThan (e other : Expr) : Expr := .compare e .greater other

/-- `e >= other` -/
def greaterOrEqual (e other : Expr) : Expr := .compare e .greaterOrEqual other

/-- `e < other` -/
def lessThan (e other : Expr) : Expr := .compare e .less other

/-- `e <= other` -/
def lessOrEqual (e other : Expr) : Expr := .compare e .lessOrEqual other

/-- `e && other` -/
protected def and (e other : Expr) : Expr := .logical e .both other

/-- `e || other` -/
protected def or (e other : Expr) : Expr := .logical e .either other

/-- Whether the text `e` contains `other`. -/
def contains (e other : Expr) : Expr := .call e "Contains" [other]

/-- Whether the text `e` starts with `other`. -/
def startsWith (e other : Expr) : Expr := .call e "StartsWith" [other]

/-- Whether the text `e` ends with `other`. -/
def endsWith (e other : Expr) : Expr := .call e "EndsWith" [other]

/-- An object without fields, of a named type or of none. -/
def object (type : Option String) : Expr := .construct type []

/-- An object with one more field. -/
def withField (e : Expr) (field : String) (source : Expr) : Expr :=
  match e with
  | .construct type bindings => .construct type (bindings ++ [(field, source)])
  | e => e

end DocumentQuery.Expr
