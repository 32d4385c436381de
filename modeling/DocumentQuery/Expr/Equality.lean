import DocumentQuery.Expr.Basic

/-!
# Equality of expressions

* `Expr.same`: the same tree, with constants compared as values and captured
  variables as JSON. A tree with a constant that is not equal to itself, such
  as an infinity, is not the same as itself.
-/

namespace DocumentQuery.Expr

mutual

/-- Equality of expressions, node by node. -/
def same : Expr → Expr → Bool
  | .parameter, .parameter => true
  | .member s m, .member t n => same s t && m == n
  | .index s i, .index t j => same s t && same i j
  | .constant a, .constant b => a.equals b
  | .captured m a, .captured n b => m == n && a.same b
  | .compare a o b, .compare c p d => same a c && o == p && same b d
  | .logical a o b, .logical c p d => same a c && o == p && same b d
  | .call s m as, .call t n bs => same s t && m == n && sameArguments as bs
  | .construct s as, .construct t bs => s == t && sameBindings as bs
  | _, _ => false

/-- Equality of arguments, position by position. -/
def sameArguments : List Expr → List Expr → Bool
  | [], [] => true
  | a :: as, b :: bs => same a b && sameArguments as bs
  | _, _ => false

/-- Equality of bindings, position by position. -/
def sameBindings : List (String × Expr) → List (String × Expr) → Bool
  | [], [] => true
  | (m, a) :: as, (n, b) :: bs => m == n && same a b && sameBindings as bs
  | _, _ => false

end

end DocumentQuery.Expr
