import DocumentQuery.Error
import DocumentQuery.Sql.Parameters
import DocumentQuery.Text.Basic

/-!
# Placeholders

A placeholder of a statement is a name after an at sign, outside quotes. A
store knows placeholders by position alone, so each is given the position of
its name among the parameters, and the values are handed over in the order of
the parameters.

* `Sql.closing?`: which characters open quotes, and what closes them;
* `Sql.numberPlaceholders`: a text with every name turned into its position;
* `Sql.Argument`, `Sql.bindParameters`: the values as a driver is given them.
-/

namespace DocumentQuery.Sql

/-- The character that ends the quotes which a character starts. -/
def closing? (c : Char) : Option Char :=
  if c = '\'' ∨ c = '"' ∨ c = '\x60' then some c
  else if c = '[' then some ']'
  else none

/-- Whether a text after an at sign starts with a name. -/
def startsName : List Char → Bool
  | [] => false
  | c :: _ => Text.isWordStart c

/-- A text that comes after an opening quote which `close` ends, or outside quotes,
with names turned into positions. -/
def numberFrom (p : Parameters) : Option Char → List Char → Except Error (List Char)
  | _, [] => .ok []
  | some close, c :: cs =>
    (numberFrom p (if c = close then none else some close) cs).map (c :: ·)
  | none, c :: cs =>
    if c = '@' && startsName cs then
      let name := String.ofList (cs.takeWhile Text.isWordChar)
      match p.position? name with
      | none => .error (.storage (.unboundParameter name))
      | some position =>
        (numberFrom p none (cs.dropWhile Text.isWordChar)).map fun rest =>
          '?' :: Nat.toDigits 10 (position + 1) ++ rest
    else (numberFrom p (closing? c) cs).map (c :: ·)
termination_by _ cs => cs.length
decreasing_by
  · simp
  · have := (List.dropWhile_suffix Text.isWordChar (l := cs)).length_le
    simp only [List.length_cons]
    omega
  · simp

/-- A statement text with every placeholder numbered. The first name that is not
bound decides the error. -/
def numberPlaceholders (sql : String) (p : Parameters) : Except Error String :=
  (numberFrom p none sql.toList).map String.ofList

/-! ## Arguments -/

/-- A value as a driver takes it. -/
inductive Argument
  /-- A text that there is not. -/
  | null
  | integer (i : Int64)
  | real (x : Float)
  | text (s : String)
  | flag (b : Bool)
  deriving DecidableEq, Repr

/-- The argument that a value is handed over as. -/
def Argument.ofValue : Value → Argument
  | .null => .null
  | .integer i => .integer i
  | .float x => .real x
  | .text s => .text s
  | .boolean b => .flag b

/-- A query with the values of the parameters, given to it one after another. What a query is
and how it takes an argument is up to the driver. -/
def bindParameters {Query : Type} (bind : Query → Argument → Query) (query : Query)
    (p : Parameters) : Query :=
  p.values.foldl (fun query value => bind query (.ofValue value)) query

/-- The arguments in the order in which a query is given them. -/
def arguments (p : Parameters) : List Argument :=
  bindParameters (fun given argument => given ++ [argument]) [] p

end DocumentQuery.Sql
