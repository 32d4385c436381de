import DocumentQuery.Text.Basic
import DocumentQuery.Text.Case

/-!
# Expressions in the text of a table

A store keeps the statement that created a table, and with it the expressions
of its generated columns. The definition of a column is found by its name: at
the start of the text, after an opening parenthesis or after a comma, bare or
in any of the quotes that names can have. Its expression stands in the
parentheses after the next AS, if no comma comes before that.

The search knows nothing of string literals, so it may find text inside one
that looks like a definition.

* `CreateText.expression?`: the expression of a column.
-/

namespace DocumentQuery.CreateText

/-- What follows a word at the start of a text, if it is there up to case. -/
def afterWord? : List Char → List Char → Option (List Char)
  | [], cs => some cs
  | _ :: _, [] => none
  | w :: ws, c :: cs => if Text.sameFolded w c then afterWord? ws cs else none

/-- A text without some of the blanks at its start, from all of them to none. -/
def withoutBlanks : List Char → List (List Char)
  | [] => [[]]
  | c :: cs => if Text.isBlank c then withoutBlanks cs ++ [c :: cs] else [c :: cs]

/-- The spellings of a name. -/
def spellings (name : List Char) : List (List Char) :=
  ['[' :: name ++ [']'], '"' :: name ++ ['"'], '\x60' :: name ++ ['\x60'], name]

/-- What follows the AS and the parenthesis at the start of a text. -/
def afterAs? (cs : List Char) : Option (List Char) :=
  match (afterWord? ['A', 'S'] cs).map Text.skipBlank with
  | some ('(' :: rest) => some rest
  | _ => none

/-- What follows the first AS with a parenthesis that no comma precedes. -/
def afterNextAs? : List Char → Option (List Char)
  | [] => none
  | c :: cs =>
    match afterAs? (c :: cs) with
    | some rest => some rest
    | none => if c = ',' then none else afterNextAs? cs

/-- Where the expression starts in a definition that starts with this spelling of its name. -/
def afterSpelling? (cs spelling : List Char) : Option (List Char) :=
  match afterWord? spelling cs with
  | some (c :: rest) => if Text.isBlank c then afterNextAs? (Text.skipBlank rest) else none
  | _ => none

/-- Where the expression starts in a text that starts with the definition of a column. -/
def inDefinition? (name cs : List Char) : Option (List Char) :=
  (withoutBlanks cs).findSome? fun cs => (spellings name).findSome? (afterSpelling? cs)

/-- Where the expression starts in a definition after a parenthesis or a comma. -/
def findDefinition? (name : List Char) : List Char → Option (List Char)
  | [] => none
  | c :: cs =>
    match if c = '(' ∨ c = ',' then inDefinition? name cs else none with
    | some rest => some rest
    | none => findDefinition? name cs

/-- The text up to the parenthesis that closes `depth` open ones, outside string literals. -/
def upToClose? (depth : Nat) (inString : Bool) : List Char → Option (List Char)
  | [] => none
  | c :: cs =>
    if c = '\'' then (upToClose? depth (!inString) cs).map (c :: ·)
    else if inString then (upToClose? depth inString cs).map (c :: ·)
    else if c = '(' then (upToClose? (depth + 1) inString cs).map (c :: ·)
    else if c = ')' then
      if depth = 1 then some [] else (upToClose? (depth - 1) inString cs).map (c :: ·)
    else (upToClose? depth inString cs).map (c :: ·)

/-- The expression of a column in the text of its table. -/
def expression? (text name : String) : Option String := do
  let cs := text.toList
  let rest ← (inDefinition? name.toList cs).orElse fun _ => findDefinition? name.toList cs
  let expression ← upToClose? 1 false rest
  return String.ofList (Text.trim expression)

end DocumentQuery.CreateText
