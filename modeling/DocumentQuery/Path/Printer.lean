import DocumentQuery.Path.Basic
import DocumentQuery.Text.Basic

/-!
# The text of a path

A dollar sign for the root, then each step: a member after a dot, in quotes
unless its name is a word, and a position in brackets.

* `Path.text`: the text of a path;
* `Path.literal`: the same as a string literal of query text.
-/

namespace DocumentQuery.Path

/-- The characters of a step. -/
def Segment.chars : Segment → List Char
  | .field name =>
    if Text.isWord name.toList then '.' :: name.toList
    else '.' :: '"' :: name.toList ++ ['"']
  | .index position => '[' :: Nat.toDigits 10 position.toNat ++ [']']

/-- The characters of a path. -/
def chars (p : Path) : List Char := '$' :: p.segments.flatMap Segment.chars

/-- The text of a path. -/
def text (p : Path) : String := String.ofList p.chars

/-- The text of a path as a string literal. -/
def literal (p : Path) : String := String.ofList (Text.enclose '\'' p.chars)

end DocumentQuery.Path
