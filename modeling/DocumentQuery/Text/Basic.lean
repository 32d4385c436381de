/-!
# Characters and parts of texts

Texts are lists of characters where their characters matter. Names in query
text are ASCII words: a letter or an underscore, then letters, digits and
underscores. Query text puts names and strings between two delimiters of one
kind; a delimiter inside is written twice, so the first one that is not
doubled ends the text.

* `inRanges`: a Unicode property as the list of its maximal ranges of code
  points, both ends included and in ascending order;
* `isBlank`, `isControl`: the property White_Space and the category Cc;
* `trim`: a text without the blanks at its two ends;
* `isWordStart`, `isWordChar`, `isWord`: ASCII words;
* `sameIgnoringCase`: equality of texts up to the case of ASCII letters;
* `naturalOfDigits`: the number that digits write;
* `natural64?`: an unsigned 64-bit number with an optional plus sign;
* `occursIn`: whether a text stands somewhere in another;
* `enclose`, `unenclose`: a text between its delimiters, and read back.
-/

namespace DocumentQuery.Text

/-- Whether a range of the table holds the code point. -/
def inRanges (table : List (Nat × Nat)) (n : Nat) : Bool :=
  table.any fun range => decide (range.1 ≤ n ∧ n ≤ range.2)

/-! ## Blanks and controls -/

/-- White_Space: the ASCII blanks, next line, no-break space and the other
spaces and separators of Unicode. -/
def isBlank (c : Char) : Bool :=
  let n := c.toNat
  (9 ≤ n && n ≤ 13) || n == 0x20 || n == 0x85 || n == 0xA0 || n == 0x1680 ||
    (0x2000 ≤ n && n ≤ 0x200A) || n == 0x2028 || n == 0x2029 || n == 0x202F || n == 0x205F ||
    n == 0x3000

/-- The two ranges of control characters. -/
def isControl (c : Char) : Bool := c.toNat ≤ 0x1F || (0x7F ≤ c.toNat && c.toNat ≤ 0x9F)

/-- A text from its first character that is not blank. -/
def skipBlank (cs : List Char) : List Char := cs.dropWhile isBlank

/-- A text without its leading and trailing blanks. -/
def trim (cs : List Char) : List Char := (skipBlank (skipBlank cs).reverse).reverse

/-! ## Words -/

/-- An ASCII letter or an underscore. -/
def isWordStart (c : Char) : Bool := c.isAlpha || c == '_'

/-- An ASCII letter, a digit or an underscore. -/
def isWordChar (c : Char) : Bool := c.isAlphanum || c == '_'

/-- Whether a text is a nonempty word that does not start with a digit. -/
def isWord : List Char → Bool
  | [] => false
  | c :: cs => isWordStart c && cs.all isWordChar

/-- Equality up to the case of ASCII letters; other characters have to be equal. -/
def sameIgnoringCase (a b : List Char) : Bool := a.map Char.toLower == b.map Char.toLower

/-! ## Digits -/

/-- The value of a decimal digit. -/
def digitValue (c : Char) : Nat := c.toNat - 48

/-- The number that decimal digits write, the empty text being zero. -/
def naturalOfDigits (digits : List Char) : Nat :=
  digits.foldl (fun n c => n * 10 + digitValue c) 0

/-- A text without a plus sign that may stand at its start. -/
def dropPlus : List Char → List Char
  | '+' :: cs => cs
  | cs => cs

/-- The number below `2 ^ 64` that a text writes with at least one digit. -/
def natural64? (cs : List Char) : Option UInt64 :=
  let digits := dropPlus cs
  if digits.isEmpty || !digits.all Char.isDigit || UInt64.size ≤ naturalOfDigits digits then none
  else some (UInt64.ofNat (naturalOfDigits digits))

/-! ## Texts inside texts -/

/-- Whether `part` stands somewhere in a text. -/
def occursIn (part : List Char) : List Char → Bool
  | [] => part.isEmpty
  | c :: cs => part.isPrefixOf (c :: cs) || occursIn part cs

theorem occursIn_iff {part cs : List Char} : occursIn part cs ↔ part <:+: cs := by
  induction cs with
  | nil => simp [occursIn]
  | cons c cs ih =>
    rw [occursIn, Bool.or_eq_true, List.isPrefixOf_iff_prefix, ih, List.infix_cons_iff]

/-! ## Delimited texts -/

/-- The characters between the delimiters. -/
def double (delimiter : Char) : List Char → List Char
  | [] => []
  | c :: cs =>
    if c = delimiter then delimiter :: delimiter :: double delimiter cs
    else c :: double delimiter cs

/-- A text between its delimiters. -/
def enclose (delimiter : Char) (cs : List Char) : List Char :=
  delimiter :: double delimiter cs ++ [delimiter]

/-- The text up to the first delimiter that is not doubled, and what follows
this delimiter. -/
def unenclose (delimiter : Char) : List Char → Option (List Char × List Char)
  | [] => none
  | [c] => if c = delimiter then some ([], []) else none
  | c :: d :: cs =>
    if c = delimiter then
      if d = delimiter then
        (unenclose delimiter cs).map fun (text, rest) => (delimiter :: text, rest)
      else some ([], d :: cs)
    else (unenclose delimiter (d :: cs)).map fun (text, rest) => (c :: text, rest)

end DocumentQuery.Text
