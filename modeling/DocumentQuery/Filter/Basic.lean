import DocumentQuery.Expr.Path

/-!
# Filters

A filter is a tree of conditions joined by AND and OR. A condition relates the
value of a document path to one value of the caller.

* `Condition`, `Filter`: the conditions and the trees;
* `Filter.conditions`, `Filter.values`: the leaves of a tree from left to right;
* `Filter.ofExpr?`: the filter that an expression is.
-/

namespace DocumentQuery

/-- How the value of a path relates to the value of the caller. -/
inductive Relation
  | compare (op : Comparison)
  /-- The value of the path matches the value of the caller as a pattern. -/
  | like
  deriving DecidableEq, Repr

/-- A condition on the value of a path. -/
structure Condition where
  path : Path
  relation : Relation
  value : Value
  deriving DecidableEq, Repr

/-- A tree of conditions. -/
inductive Filter
  | condition (c : Condition)
  | join (left : Filter) (op : Connective) (right : Filter)
  deriving DecidableEq, Repr

namespace Filter

/-- The conditions from left to right. -/
def conditions : Filter → List Condition
  | .condition c => [c]
  | .join left _ right => left.conditions ++ right.conditions

/-- The values of the caller from left to right. -/
def values (f : Filter) : List Value := f.conditions.map Condition.value

/-- The number of conditions. -/
def size : Filter → Nat
  | .condition _ => 1
  | .join left _ right => left.size + right.size

end Filter

/-! ## Filters from expressions -/

variable [RegexLibrary]

/-- The condition of a comparison, exactly one side of which is a document path.
With the path on the right, the operator is turned around. -/
def Condition.ofComparison (left : Expr) (op : Comparison) (right : Expr) :
    Except Error Condition :=
  let between (path value : Expr) (op : Comparison) : Except Error Condition := do
    let path ← path.path?
    let value ← value.evaluate
    return ⟨path, .compare op, value⟩
  match left.isDocumentPath, right.isDocumentPath with
  | true, false => between left right op
  | false, true => between right left op.mirrored
  | true, true => .error (.comparison (.bothSides (Expr.compare left op right).text))
  | false, false => .error (.comparison (.neitherSide (Expr.compare left op right).text))

/-- The condition of a string predicate on a document path with one argument, a text. -/
def Condition.ofCall (target : Expr) (method : String) (arguments : List Expr) :
    Except Error Condition :=
  match TextTest.ofMethod? method with
  | none => .error (.method method)
  | some test =>
    match arguments with
    | [needle] =>
      if target.isDocumentPath then do
        let path ← target.path?
        let value ← needle.evaluate
        match value with
        | .text text =>
          return ⟨path, .like, .text (String.ofList (test.pattern text.toList))⟩
        | value => .error (.expression (.testNeedle method value.kind))
      else .error (.expression (.testTarget method target.kind))
    | _ => .error (.expression (.testArguments method arguments.length))

/-- The filter of an expression. The first condition that fails decides the error. -/
def Filter.ofExpr? : Expr → Except Error Filter
  | .compare left op right => (Condition.ofComparison left op right).map .condition
  | .call target method arguments => (Condition.ofCall target method arguments).map .condition
  | .logical left op right => do
    let left ← ofExpr? left
    let right ← ofExpr? right
    return .join left op right
  | e => .error (.expression (.node e.kind))

end DocumentQuery
