/-!
# Patterns of string predicates

A string predicate asks whether a text contains a needle, starts with it or
ends with it. It becomes a LIKE pattern in which the needle is matched
literally.

* `TextTest`: the three predicates, and the methods that name them;
* `Like.escape`: a needle with an escape before each wildcard;
* `TextTest.pattern`: the pattern of a predicate and a needle.
-/

namespace DocumentQuery

/-- The string predicates that have a pattern. -/
inductive TextTest
  | contains
  | startsWith
  | endsWith
  deriving DecidableEq, Repr

/-- The predicate that a method of an expression asks for. -/
def TextTest.ofMethod? (method : String) : Option TextTest :=
  if method = "Contains" then some .contains
  else if method = "StartsWith" then some .startsWith
  else if method = "EndsWith" then some .endsWith
  else none

/-- The character that makes the next one of a pattern literal. -/
def Like.escapeChar : Char := '\\'

/-- The characters that have a meaning of their own in a pattern. -/
def Like.isSpecial (c : Char) : Bool := c == '%' || c == '_' || c == escapeChar

/-- A needle with the escape character before each special one. -/
def Like.escape (needle : List Char) : List Char :=
  needle.flatMap fun c => if isSpecial c then [escapeChar, c] else [c]

/-- The pattern that a text passing the test matches. -/
def TextTest.pattern (test : TextTest) (needle : List Char) : List Char :=
  match test with
  | .contains => '%' :: Like.escape needle ++ ['%']
  | .startsWith => Like.escape needle ++ ['%']
  | .endsWith => '%' :: Like.escape needle

end DocumentQuery
