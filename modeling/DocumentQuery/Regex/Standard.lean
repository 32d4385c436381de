import DocumentQuery.Like.Fold

/-!
# A library of regular expressions

It knows the expressions that patterns are turned into: characters, dots, runs
of them, and the two ends of a text.

Trying every length of every run would take time exponential in their number.
So whether the pieces of an expression can be taken is answered for all ends of
a text at once, in a row, the whole text first; the row of a list of pieces
follows from the row of its tail.

* `Regex.read`: the pieces that a text spells;
* `Regex.row`: from which ends of a text they can be taken;
* `Regex.standard`: the library;
* `Like.holds`: whether a text matches a pattern, which the library never refuses.
-/

namespace DocumentQuery

namespace Regex

/-! ## Reading -/

/-- What one character of an expression says, or two if the first is a backslash. -/
inductive Symbol
  | textStart
  | textEnd
  | single (k : CharClass)
  | star
  deriving DecidableEq, Repr

/-- What a character that no backslash precedes says. -/
def symbol? (c : Char) : Option Symbol :=
  if c = '^' then some .textStart
  else if c = '$' then some .textEnd
  else if c = '.' then some (.single .any)
  else if c = '*' then some .star
  else if isMeta c then none
  else some (.single (.exactly c))

/-- The symbols of a text. -/
def symbols : List Char → Option (List Symbol)
  | [] => some []
  | '\\' :: c :: cs =>
    if isMeta c then (symbols cs).map (.single (.exactly c) :: ·) else none
  | c :: cs =>
    match symbol? c with
    | none => none
    | some s => (symbols cs).map (s :: ·)

/-- The pieces that symbols make up. -/
def pieces : List Symbol → Option (List Piece)
  | [] => some []
  | .single k :: .star :: ss => (pieces ss).map (.run k :: ·)
  | .single k :: ss => (pieces ss).map (.one k :: ·)
  | .textStart :: ss => (pieces ss).map (.textStart :: ·)
  | .textEnd :: ss => (pieces ss).map (.textEnd :: ·)
  | .star :: _ => none

/-- The pieces that a text spells. -/
def read (cs : List Char) : Option (List Piece) := (symbols cs).bind pieces

/-! ## Looking for an expression -/

/-- From the whole text alone. -/
def startRow : List Bool → List Bool
  | [] => []
  | b :: bs => b :: bs.map fun _ => false

/-- From the empty end alone. -/
def endRow : List Bool → List Bool
  | [] => []
  | [b] => [b]
  | _ :: bs => false :: endRow bs

/-- From an end whose first character is taken, if what comes after can be taken. -/
def stepRow (takes : Char → Bool) : List Char → List Bool → List Bool
  | c :: cs, _ :: b :: bs => (takes c && b) :: stepRow takes cs (b :: bs)
  | _, _ => [false]

/-- From an end of which a run of characters is taken, if what comes after can be taken. -/
def runRow (takes : Char → Bool) : List Char → List Bool → List Bool
  | c :: cs, b :: bs =>
    let later := runRow takes cs bs
    (b || takes c && later.headD false) :: later
  | _, bs => bs

/-- From which ends of a text the pieces can be taken. -/
def row (o : Options) (text : List Char) : List Piece → List Bool
  | [] => true :: text.map fun _ => true
  | .textStart :: ps => startRow (row o text ps)
  | .textEnd :: ps => endRow (row o text ps)
  | .one k :: ps => stepRow (k.takes o) text (row o text ps)
  | .run k :: ps => runRow (k.takes o) text (row o text ps)

/-! ## The library -/

/-- The spelling of an expression that stands for a text. -/
def escape (cs : List Char) : List Char :=
  cs.flatMap fun c => if isMeta c then ['\\', c] else [c]

/-- The pieces of an expression, and how it is matched. -/
def compile (o : Options) (cs : List Char) : Except String (Options × List Piece) :=
  match read cs with
  | some ps => .ok (o, ps)
  | none => .error "not an expression of characters, dots and runs of them"

instance standard : RegexLibrary where
  Compiled := Options × List Piece
  escape := escape
  build := compile
  isMatch regex text := (row regex.1 text regex.2).any id

end Regex

/-- Whether a text matches a pattern. There is no pattern of which this library does not read
the expression, so that there is always an answer. -/
def Like.holds (text pattern : List Char) : Bool := (Like.holds? text pattern).toOption.getD false

end DocumentQuery
