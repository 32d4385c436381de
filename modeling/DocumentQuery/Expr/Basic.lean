import DocumentQuery.Value.Basic

/-!
# Expressions

Filters and projections as trees over the stored document. The parameter
stands for the document, accesses lead into it, and everything else is a value
or a condition on values.

* `Expr`: the trees;
* `Comparison`, `Connective`: the operators;
* `Expr.kind`: what an expression is at its root;
* `Expr.isDocumentPath`: whether an expression leads into the document.
-/

namespace DocumentQuery

/-- The six comparison operators. -/
inductive Comparison
  | equal
  | notEqual
  | greater
  | greaterOrEqual
  | less
  | lessOrEqual
  deriving DecidableEq, Repr

/-- The two logical operators. -/
inductive Connective
  | both
  | either
  deriving DecidableEq, Repr

/-- An expression. -/
inductive Expr
  /-- The document itself. -/
  | parameter
  | member (target : Expr) (name : String)
  | index (target : Expr) (position : Expr)
  | constant (value : Value)
  /-- A variable of the caller, with its value. -/
  | captured (name : String) (value : Json)
  | compare (left : Expr) (op : Comparison) (right : Expr)
  | logical (left : Expr) (op : Connective) (right : Expr)
  | call (target : Expr) (method : String) (arguments : List Expr)
  /-- An object of a named type, or of none, with its fields and their sources. -/
  | construct (type : Option String) (bindings : List (String × Expr))
  deriving Repr, Inhabited

/-- What an expression can be at its root. -/
inductive Expr.Kind
  | parameter
  | member
  | index
  | constant
  | captured
  | compare
  | logical
  | call
  | construct
  deriving DecidableEq, Repr

/-- The name of a kind in messages. -/
def Expr.Kind.name : Expr.Kind → String
  | .parameter => "Parameter"
  | .member => "MemberAccess"
  | .index => "ArrayIndex"
  | .constant => "Constant"
  | .captured => "CapturedValue"
  | .compare => "Comparison"
  | .logical => "Logical"
  | .call => "MethodCall"
  | .construct => "ObjectConstruction"

namespace Expr

/-- What an expression is at its root. -/
def kind : Expr → Kind
  | .parameter => .parameter
  | .member .. => .member
  | .index .. => .index
  | .constant .. => .constant
  | .captured .. => .captured
  | .compare .. => .compare
  | .logical .. => .logical
  | .call .. => .call
  | .construct .. => .construct

/-- Whether an expression is a chain of accesses that starts at the document.
Whether the positions in it can be evaluated is another matter. -/
def isDocumentPath : Expr → Bool
  | .parameter => true
  | .member target _ => target.isDocumentPath
  | .index target _ => target.isDocumentPath
  | _ => false

end Expr

/-- The operator that says the same with its operands swapped. -/
def Comparison.mirrored : Comparison → Comparison
  | .equal => .equal
  | .notEqual => .notEqual
  | .greater => .less
  | .greaterOrEqual => .lessOrEqual
  | .less => .greater
  | .lessOrEqual => .greaterOrEqual

end DocumentQuery
