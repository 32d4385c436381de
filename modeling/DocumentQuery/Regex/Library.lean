import DocumentQuery.Text.Case

/-!
# Regular expressions

Patterns that no shortcut decides are turned into regular expressions, which a
library compiles and looks for. How it does so is not fixed here. What is known
of it is how the expressions that occur are spelled, and what they find.

* `RegexLibrary`: what a library of regular expressions offers;
* `Regex.Piece`, `Regex.Spells`: the pieces of an expression and their spelling;
* `Regex.Finds`: whether an expression is found in a text;
* `RegexLibrary.IsDocumented`: a library that does what its documentation says.
-/

namespace DocumentQuery

/-- How an expression is matched. -/
structure Regex.Options where
  /-- Whether a letter stands for itself in either case. -/
  ignoresCase : Bool
  /-- Whether a dot stands for a line feed, too. -/
  dotTakesLines : Bool
  deriving DecidableEq, Repr

/-- A library of regular expressions. -/
class RegexLibrary where
  /-- Expressions that are ready to be looked for. -/
  Compiled : Type
  /-- The spelling of an expression that stands for a text. -/
  escape : List Char → List Char
  /-- Reads an expression, or says why it cannot be used. -/
  build : Regex.Options → List Char → Except String Compiled
  /-- Whether an expression is found anywhere in a text. -/
  isMatch : Compiled → List Char → Bool

namespace Regex

/-! ## Spelling -/

/-- What stands for one character. -/
inductive CharClass
  | any
  | exactly (c : Char)
  deriving DecidableEq, Repr

/-- A part of an expression. -/
inductive Piece
  /-- `^`: nothing stands before. -/
  | textStart
  /-- `$`: nothing stands behind. -/
  | textEnd
  | one (k : CharClass)
  /-- `*`: any number of characters. -/
  | run (k : CharClass)
  deriving DecidableEq, Repr

/-- The characters that do not stand for themselves, or not everywhere. -/
def isMeta (c : Char) : Bool :=
  ['\\', '.', '+', '*', '?', '(', ')', '|', '[', ']', '\x7b', '\x7d', '^', '$', '#', '&', '-',
    '~'].contains c

/-- The spelling of what stands for one character. -/
inductive CharClass.IsSpelled : CharClass → List Char → Prop
  | any : IsSpelled .any ['.']
  | plain {c : Char} (hc : isMeta c = false) : IsSpelled (.exactly c) [c]
  | escaped {c : Char} (hc : isMeta c = true) : IsSpelled (.exactly c) ['\\', c]

/-- A text spells an expression with these pieces. -/
inductive Spells : List Char → List Piece → Prop
  | nil : Spells [] []
  | textStart {cs : List Char} {ps : List Piece} (h : Spells cs ps) :
    Spells ('^' :: cs) (.textStart :: ps)
  | textEnd {cs : List Char} {ps : List Piece} (h : Spells cs ps) :
    Spells ('$' :: cs) (.textEnd :: ps)
  | one {k : CharClass} {spelling cs : List Char} {ps : List Piece} (hk : k.IsSpelled spelling)
    (h : Spells cs ps) : Spells (spelling ++ cs) (.one k :: ps)
  | run {k : CharClass} {spelling cs : List Char} {ps : List Piece} (hk : k.IsSpelled spelling)
    (h : Spells cs ps) : Spells (spelling ++ '*' :: cs) (.run k :: ps)

/-! ## Meaning -/

/-- Whether a character is one that the class stands for. Without regard to case, it is one
with the same simple case folding. -/
def CharClass.takes (o : Options) : CharClass → Char → Bool
  | .any, d => o.dotTakesLines || d != '\n'
  | .exactly c, d => if o.ignoresCase then Text.sameFolded c d else c == d

/-- The pieces can be taken one after another from `after`, a text that comes after `before`. -/
def Follows (o : Options) : List Piece → (before after : List Char) → Prop
  | [], _, _ => True
  | .textStart :: ps, before, after => before = [] ∧ Follows o ps before after
  | .textEnd :: ps, before, after => after = [] ∧ Follows o ps before after
  | .one k :: ps, before, after =>
    ∃ d rest, after = d :: rest ∧ k.takes o d = true ∧ Follows o ps (before ++ [d]) rest
  | .run k :: ps, before, after =>
    ∃ run rest, after = run ++ rest ∧ (∀ d ∈ run, k.takes o d = true) ∧
      Follows o ps (before ++ run) rest

/-- The expression is found somewhere in a text. -/
def Finds (o : Options) (ps : List Piece) (text : List Char) : Prop :=
  ∃ before after, text = before ++ after ∧ Follows o ps before after

end Regex

open Regex in
/-- What the documentation says of a library. An expression `fits` if it does not get too
large when it is compiled. -/
structure RegexLibrary.IsDocumented [RegexLibrary] (fits : Options → List Char → Prop) : Prop where
  escape (c : Char) : (CharClass.exactly c).IsSpelled (escape [c])
  build {cs : List Char} {ps : List Piece} (h : Spells cs ps) {o : Options} (hfits : fits o cs) :
    ∃ regex, build o cs = .ok regex
  isMatch {cs : List Char} {ps : List Piece} (h : Spells cs ps) {o : Options} {regex : Compiled}
    (hregex : RegexLibrary.build o cs = .ok regex) (text : List Char) :
    isMatch regex text = true ↔ Finds o ps text

end DocumentQuery
