import DocumentQuery.Path.Parser
import DocumentQuery.Sql.Extraction

/-!
# Recognising an extraction call

The expression of a generated column exposes a path if it is an extraction
call and nothing else, however it is spelled: within parentheses, with blanks
between its parts, with any case of the names, and with the column bare or in
any of the quotes that names can have.

* `Sql.stripParens`: an expression without the parentheses around it;
* `Sql.readCall`: the parts of a call;
* `Extraction.sourcePath?`: the path that an expression exposes.
-/

namespace DocumentQuery

namespace Sql

/-! ## Enclosing parentheses -/

/-- Whether the parentheses of a text that are outside string literals match,
with `depth` of them open before it. -/
def isBalanced (depth : Nat) (inString : Bool) : List Char → Bool
  | [] => depth == 0
  | c :: cs =>
    if c = '\'' then isBalanced depth (!inString) cs
    else if inString then isBalanced depth inString cs
    else if c = '(' then isBalanced (depth + 1) inString cs
    else if c = ')' then depth != 0 && isBalanced (depth - 1) inString cs
    else isBalanced depth inString cs

/-- The text between a pair of parentheses that encloses all of a text. -/
def unwrap? (cs : List Char) : Option (List Char) :=
  match cs with
  | '(' :: rest =>
    if rest.getLast? = some ')' && isBalanced 0 false rest.dropLast then some rest.dropLast
    else none
  | _ => none

theorem length_unwrap? {cs inner : List Char} (h : unwrap? cs = some inner) :
    inner.length < cs.length := by
  unfold unwrap? at h
  split at h
  · split at h
    · cases h
      simp only [List.length_dropLast, List.length_cons]
      omega
    · cases h
  · cases h

theorem length_trim_le (cs : List Char) : (Text.trim cs).length ≤ cs.length := by
  have h₁ := (List.dropWhile_suffix Text.isBlank (l := cs)).length_le
  have h₂ := (List.dropWhile_suffix Text.isBlank (l := (Text.skipBlank cs).reverse)).length_le
  simp only [Text.trim, List.length_reverse, Text.skipBlank] at *
  omega

/-- A text without blanks around it and without the parentheses that enclose all of it. -/
def stripParens (cs : List Char) : List Char :=
  match _h : unwrap? (Text.trim cs) with
  | some inner => stripParens inner
  | none => Text.trim cs
termination_by cs.length
decreasing_by
  have := length_unwrap? _h
  have := length_trim_le cs
  omega

/-! ## The parts of a call -/

/-- The two characters outside ASCII that are equal to ASCII letters up to case. -/
def isLetterVariant (c : Char) : Bool := c == 'ſ' || c == '\u212a'

/-- A bare name at the start of a text. -/
def readBareName : List Char → Option (List Char × List Char)
  | [] => none
  | c :: cs =>
    let continues (c : Char) := Text.isWordChar c || isLetterVariant c
    if Text.isWordStart c || isLetterVariant c then
      some (c :: cs.takeWhile continues, cs.dropWhile continues)
    else none

/-- The text up to a closing quote, at least one character, and what follows the quote. -/
def readUpTo (close : Char) (cs : List Char) : Option (List Char × List Char) :=
  match cs.takeWhile (· != close), cs.dropWhile (· != close) with
  | [], _ => none
  | _, [] => none
  | name, _ :: rest => some (name, rest)

/-- The name of a column, bare or in brackets, double quotes or backquotes. -/
def readColumnName : List Char → Option (List Char × List Char)
  | '[' :: cs => readUpTo ']' cs
  | '"' :: cs => readUpTo '"' cs
  | '\x60' :: cs => readUpTo '\x60' cs
  | cs => readBareName cs

/-- The function, the column and the string of a call that is a whole text. -/
def readCall (cs : List Char) : Option (List Char × List Char × List Char) := do
  let (function, cs) ← readBareName (Text.skipBlank cs)
  let '(' :: cs := Text.skipBlank cs | none
  let (column, cs) ← readColumnName (Text.skipBlank cs)
  let ',' :: cs := Text.skipBlank cs | none
  let '\'' :: cs := Text.skipBlank cs | none
  let (string, cs) ← Text.unenclose '\'' cs
  let ')' :: cs := Text.skipBlank cs | none
  let [] := Text.skipBlank cs | none
  return (function, column, string)

end Sql

/-- The path that an expression exposes, if it is an extraction call of this
function on this column. -/
def Extraction.sourcePath? (e : Extraction) (expression : String) : Option Path := do
  let (function, column, string) ← Sql.readCall (Sql.stripParens expression.toList)
  if Text.sameIgnoringCase function e.function.toList &&
      Text.sameIgnoringCase column e.column.toList then
    (Path.parse (String.ofList string)).toOption
  else none

end DocumentQuery
