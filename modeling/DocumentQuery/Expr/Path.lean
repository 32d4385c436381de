import DocumentQuery.Expr.Evaluate
import DocumentQuery.Path.Basic

/-!
# The path of a chain of accesses

* `Expr.path?`: the document path that an expression denotes. The accesses are
  checked from the outermost to the innermost one, the base last.
-/

namespace DocumentQuery.Expr

variable [RegexLibrary]

/-- The path of the chain `whole`, of which the inner part `e` is left to
resolve and the outer part has given `steps`. -/
def pathFrom (whole : Expr) : Expr → List Path.Segment → Except Error Path
  | .parameter, steps => .ok ⟨steps⟩
  | .member target name, steps =>
    match Path.checkName name with
    | .error e => .error e
    | .ok () => pathFrom whole target (.field name :: steps)
  | .index target position, steps =>
    match evaluateIndex position with
    | .error e => .error e
    | .ok position => pathFrom whole target (.index position :: steps)
  | e, _ => .error (.expression (.insidePath e.kind whole.text))

/-- The path that an expression denotes. -/
def path? (e : Expr) : Except Error Path := pathFrom e e []

end DocumentQuery.Expr
