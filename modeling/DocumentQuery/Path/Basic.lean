import DocumentQuery.Error
import DocumentQuery.Text.Basic

/-!
# Document paths

A path leads from the root of a document through members and positions to one
of its values.

* `Path`, `Path.Segment`: paths and their steps;
* `Path.checkName`: which member names a path can hold;
* `Path.field`, `Path.index`: a path one step longer.
-/

namespace DocumentQuery

/-- One step of a path: to a member of an object or to a position in an array. -/
inductive Path.Segment
  | field (name : String)
  | index (position : UInt64)
  deriving DecidableEq, Repr, Inhabited

/-- The steps from the root of a document to a value in it. -/
structure Path where
  segments : List Path.Segment
  deriving DecidableEq, Repr, Inhabited

namespace Path

/-- The path of the document itself. -/
def root : Path := ⟨[]⟩

/-- Whether a path is the one of the document itself. -/
def isRoot (p : Path) : Bool := p.segments.isEmpty

/-- The number of steps. -/
def length (p : Path) : Nat := p.segments.length

/-- A character that may stand between the quotes of a member name: there is
no way to write a quote or a control character there. -/
def isNameChar (c : Char) : Bool := c != '"' && !Text.isControl c

/-- Whether a member name can be written in a path. -/
def isName (name : List Char) : Bool := !name.isEmpty && name.all isNameChar

/-- Refuses a member name that no path can hold. -/
def checkName (name : String) : Except Error Unit :=
  if name.isEmpty then .error (.expression .emptyMember)
  else if name.toList.all isNameChar then .ok ()
  else .error (.expression (.unwritableMember name))

/-- The path to a member of the value that a path leads to. -/
def field (p : Path) (name : String) : Except Error Path := do
  checkName name
  return ⟨p.segments ++ [.field name]⟩

/-- The path to a position in the value that a path leads to. -/
def index (p : Path) (position : UInt64) : Path := ⟨p.segments ++ [.index position]⟩

end Path

end DocumentQuery
