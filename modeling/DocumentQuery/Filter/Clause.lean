import DocumentQuery.Filter.Basic
import DocumentQuery.Sql.ColumnRef
import DocumentQuery.Sql.Parameters

/-!
# Clauses

The text of a filter for a WHERE clause. It holds no value of the caller: each
condition has a placeholder instead, numbered from left to right, and the
values travel beside the text. Every AND and OR has its own parentheses.

* `Clause`: a text and the values of its placeholders;
* `Filter.textFrom`: the text of a filter;
* `Filter.clause`: its clause on a table;
* `Clause.ofExpr?`: the clause of an expression.
-/

namespace DocumentQuery

/-- A comparison operator in query text. -/
def Comparison.sql : Comparison → String
  | .equal => "="
  | .notEqual => "<>"
  | .greater => ">"
  | .greaterOrEqual => ">="
  | .less => "<"
  | .lessOrEqual => "<="

/-- A logical operator in query text. -/
def Connective.sql : Connective → String
  | .both => "AND"
  | .either => "OR"

/-- The text of a WHERE clause, and the values of its placeholders. -/
structure Clause where
  text : String
  parameters : Parameters
  deriving DecidableEq, Repr

/-- A column, an operator and a placeholder; a pattern names its escape character. -/
def Relation.text (column placeholder : String) : Relation → String
  | .compare op => column ++ " " ++ op.sql ++ " " ++ placeholder
  | .like => column ++ " LIKE " ++ placeholder ++ " ESCAPE '\\'"

namespace Filter

/-- The text of a filter whose first condition has the number `n`. -/
def textFrom (resolve : Path → ColumnRef) (start : String) (n : Nat) : Filter → String
  | .condition c =>
    c.relation.text (resolve c.path).text ("@" ++ Parameters.nameAt start n)
  | .join left op right =>
    "(" ++ textFrom resolve start n left ++ " " ++ op.sql ++ " " ++
      textFrom resolve start (n + left.size) right ++ ")"

/-- The clause of a filter on a table with these virtual columns. -/
def clause (s : Settings) (columns : ColumnMap) (f : Filter) : Clause where
  text := f.textFrom (columns.resolve s) s.parameterPrefix 0
  parameters := Parameters.number s.parameterPrefix f.values

end Filter

/-- The clause of an expression on a table with these virtual columns. -/
def Clause.ofExpr? [RegexLibrary] (s : Settings) (columns : ColumnMap) (e : Expr) : Except Error Clause :=
  (Filter.ofExpr? e).map (·.clause s columns)

end DocumentQuery
