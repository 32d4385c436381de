import DocumentQuery.Expr.Basic

/-!
# The text of an expression

How messages show an expression: as the caller would have written it, with
parentheses around every operator.

* `Expr.text`: the text of an expression;
* `Comparison.symbol`, `Connective.symbol`: the operators in it.
-/

namespace DocumentQuery

/-- A comparison operator in an expression. -/
def Comparison.symbol : Comparison → String
  | .equal => "=="
  | .notEqual => "!="
  | .greater => ">"
  | .greaterOrEqual => ">="
  | .less => "<"
  | .lessOrEqual => "<="

/-- A logical operator in an expression. -/
def Connective.symbol : Connective → String
  | .both => "&&"
  | .either => "||"

namespace Expr

mutual

/-- The text of an expression. -/
def text : Expr → String
  | .parameter => "x"
  | .member target name => text target ++ "." ++ name
  | .index target position => text target ++ "[" ++ text position ++ "]"
  | .constant value => value.toText
  | .captured name _ => name
  | .compare left op right => "(" ++ text left ++ " " ++ op.symbol ++ " " ++ text right ++ ")"
  | .logical left op right => "(" ++ text left ++ " " ++ op.symbol ++ " " ++ text right ++ ")"
  | .call target method arguments =>
    text target ++ "." ++ method ++ "(" ++ ", ".intercalate (argumentTexts arguments) ++ ")"
  | .construct type bindings =>
    let name := match type with
      | some name => name ++ " "
      | none => ""
    "new " ++ name ++ "\x7b " ++ ", ".intercalate (bindingTexts bindings) ++ " \x7d"

/-- The texts of arguments. -/
def argumentTexts : List Expr → List String
  | [] => []
  | argument :: arguments => text argument :: argumentTexts arguments

/-- The texts of bindings, each with its field. -/
def bindingTexts : List (String × Expr) → List String
  | [] => []
  | (field, source) :: bindings => (field ++ " = " ++ text source) :: bindingTexts bindings

end

end Expr

end DocumentQuery
