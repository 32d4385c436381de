import DocumentQuery.Error
import DocumentQuery.Like.Pattern
import DocumentQuery.Regex.Library

/-!
# Folding a string predicate over constants

Patterns of the common shapes, without escapes and with percent signs at the
ends alone, are compared in lower case. All others are turned into regular
expressions, which are looked for without regard to case.

* `Like.shortcut?`: the answer for a pattern of a common shape;
* `Like.regexText`: the regular expression of a pattern;
* `Like.holds?`: whether a text matches a pattern.
-/

namespace DocumentQuery.Like

/-- A pattern without the percent signs at its two ends. -/
def core (pattern : List Char) : List Char :=
  ((pattern.dropWhile (· == '%')).reverse.dropWhile (· == '%')).reverse

/-- The answer for a pattern without escapes and underscores, unless there is a
percent sign inside it. -/
def shortcut? (text pattern : List Char) : Option Bool :=
  if pattern.contains escapeChar || pattern.contains '_' then none
  else
    let text := Text.lowercase text
    let pattern := Text.lowercase pattern
    let needle := core pattern
    if !pattern.contains '%' then some (text == pattern)
    else if needle.contains '%' then none
    else match pattern.head? == some '%', pattern.getLast? == some '%' with
      | true, true => some (Text.occursIn needle text)
      | false, true => some (needle.isPrefixOf text)
      | true, false => some (needle.isSuffixOf text)
      | false, false => none

/-! ## Other patterns -/

variable [RegexLibrary]

/-- What a pattern says between the two ends of a text. A backslash at its end says nothing. -/
def regexBody : List Char → List Char
  | [] => []
  | '%' :: cs => '.' :: '*' :: regexBody cs
  | '_' :: cs => '.' :: regexBody cs
  | ['\\'] => []
  | '\\' :: c :: cs => RegexLibrary.escape [c] ++ regexBody cs
  | c :: cs => RegexLibrary.escape [c] ++ regexBody cs

/-- The regular expression of a pattern, for whole texts. -/
def regexText (pattern : List Char) : List Char := '^' :: regexBody pattern ++ ['$']

/-- Patterns are matched without regard to case, and across lines. -/
def regexOptions : Regex.Options := { ignoresCase := true, dotTakesLines := true }

/-- Whether a text matches a pattern. -/
def holds? (text pattern : List Char) : Except Error Bool :=
  match shortcut? text pattern with
  | some answer => .ok answer
  | none =>
    match RegexLibrary.build regexOptions (regexText pattern) with
    | .error reason => .error (.expression (.badPattern reason))
    | .ok regex => .ok (RegexLibrary.isMatch regex text)

end DocumentQuery.Like
