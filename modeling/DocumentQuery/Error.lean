import DocumentQuery.Expr.Basic
import DocumentQuery.Text.Message

/-!
# Errors

What can go wrong, by cause, and how each cause is worded. A cause that comes
from outside, from a store for instance, is only a text.

* `Error`: the classes of errors, each with its causes;
* `Error.message`: the wording, in one place;
* `Error.isRetryable`: whether trying again can help.
-/

namespace DocumentQuery

/-- Why a text is no document path. -/
inductive PathCause
  | noRoot
  | unterminatedKey
  | emptyKey
  | unterminatedIndex
  | badIndex
  | unexpected (c : Char)
  deriving DecidableEq, Repr

/-- Why an expression or a path cannot be used. Expressions are given by their
text. -/
inductive ExpressionCause
  /-- The kind of node has no meaning at its place. -/
  | node (kind : Expr.Kind)
  | emptyMember
  | unwritableMember (name : String)
  | pathText (text : String) (cause : PathCause)
  /-- A chain of accesses does not start at the document. -/
  | insidePath (kind : Expr.Kind) (chain : String)
  | notProjection (kind : Expr.Kind)
  | noBindings
  | noFields
  | unordered (a b : Float)
  | incomparable (a b : Value.Kind)
  | notBoolean (expression : String) (kind : Value.Kind)
  | noMember (target name : String)
  /-- A folded method call with another number of arguments than one. -/
  | argumentCount (method : String) (count : Nat)
  | notTexts (method : String) (target needle : Value.Kind)
  /-- A pattern that cannot be matched. -/
  | badPattern (reason : String)
  /-- A filtering method call with another number of arguments than one. -/
  | testArguments (method : String) (count : Nat)
  | testTarget (method : String) (kind : Expr.Kind)
  | testNeedle (method : String) (kind : Value.Kind)
  | reported (text : String)
  deriving DecidableEq, Repr

/-- Why a field cannot be projected. -/
inductive FieldCause
  | unusableAlias
  | repeated
  | notPath (kind : Expr.Kind)
  | reported (text : String)
  deriving DecidableEq, Repr

/-- Why a comparison is no filter. -/
inductive ComparisonCause
  | bothSides (comparison : String)
  | neitherSide (comparison : String)
  | reported (text : String)
  deriving DecidableEq, Repr

/-- Why an expression is no position in an array. -/
inductive IndexCause
  | unevaluable (position reason : String)
  | notInteger (position : String) (kind : Value.Kind)
  | negative (position : String) (value : Int64)
  | outOfBounds (position : UInt64) (target : String)
  | reported (text : String)
  deriving DecidableEq, Repr

/-- Why the schema of a table could not be read. -/
inductive ReadCause
  | noSuchTable
  /-- The read took longer than the limit, in milliseconds. -/
  | timedOut (limit : Nat)
  | reported (text : String)
  deriving DecidableEq, Repr

/-- Why a name cannot be used in query text. -/
inductive NameCause
  | empty
  | badStart (name : String)
  | badCharacter (name : String)
  | tooLong (name : String)
  | reserved (name : String)
  | reported (text : String)
  deriving DecidableEq, Repr

/-- What a store or the data in it does not have. -/
inductive StorageCause
  | unboundParameter (name : String)
  | notJson (column : String)
  | noColumn (column : String)
  | reported (text : String)
  deriving DecidableEq, Repr

/-- An error. -/
inductive Error
  | expression (cause : ExpressionCause)
  | method (name : String)
  | projection (field : String) (cause : FieldCause)
  | comparison (cause : ComparisonCause)
  | index (cause : IndexCause)
  | schemaRead (table : String) (cause : ReadCause)
  /-- A column is registered or found for a path in another way than requested. -/
  | conflict (table path existing requested : String)
  | identifier (cause : NameCause)
  | storage (cause : StorageCause)
  | lock (text : String)
  deriving DecidableEq, Repr

/-! ## Wording -/

/-- Why a text is no document path, in words. -/
def PathCause.message : PathCause → String
  | .noRoot => "must start with '$'"
  | .unterminatedKey => "unterminated quoted key"
  | .emptyKey => "empty key"
  | .unterminatedIndex => "unterminated index"
  | .badIndex => "index must be a non-negative integer"
  | .unexpected c => "unexpected character " ++ Text.inApostrophes c

/-- Why an expression cannot be used, in words. -/
def ExpressionCause.message : ExpressionCause → String
  | .node kind => kind.name
  | .emptyMember => "member with an empty name"
  | .unwritableMember name =>
    "member name " ++ Text.inQuotes name ++ " cannot be expressed as a document path"
  | .pathText text cause => "document path " ++ Text.inQuotes text ++ ": " ++ cause.message
  | .insidePath kind chain => kind.name ++ " in document path " ++ chain
  | .notProjection kind => kind.name ++ " as projection"
  | .noBindings => "ObjectConstruction without bindings"
  | .noFields => "projection without fields"
  | .unordered a b => "cannot order " ++ Value.floatText a ++ " and " ++ Value.floatText b
  | .incomparable a b => "cannot compare incompatible constants: " ++ a.name ++ " and " ++ b.name
  | .notBoolean expression kind => expression ++ " is " ++ kind.name ++ ", not a boolean"
  | .noMember target name => "captured value " ++ target ++ " has no member '" ++ name ++ "'"
  | .argumentCount method count =>
    method ++ " expects exactly one argument, got " ++ toString count
  | .notTexts method target needle => method ++ " over " ++ target.name ++ " and " ++ needle.name
  | .badPattern reason => "invalid LIKE pattern: " ++ reason
  | .testArguments method count => method ++ " with " ++ toString count ++ " arguments"
  | .testTarget method kind =>
    method ++ " on " ++ kind.name ++ ", which does not address the document"
  | .testNeedle method kind => method ++ " argument of type " ++ kind.name
  | .reported text => text

/-- Why a field cannot be projected, in words. -/
def FieldCause.message : FieldCause → String
  | .unusableAlias => "field name cannot be used as a column alias"
  | .repeated => "field is bound more than once"
  | .notPath kind => kind.name ++ " is not a document path"
  | .reported text => text

/-- Why a comparison is no filter, in words. -/
def ComparisonCause.message : ComparisonCause → String
  | .bothSides comparison => "both sides of " ++ comparison ++ " address the document"
  | .neitherSide comparison => "neither side of " ++ comparison ++ " addresses the document"
  | .reported text => text

/-- Why an expression is no position, in words. -/
def IndexCause.message : IndexCause → String
  | .unevaluable position reason => position ++ " cannot be evaluated: " ++ reason
  | .notInteger position kind => position ++ " is " ++ kind.name ++ ", not an integer"
  | .negative position value =>
    position ++ " is negative (" ++ toString value.toInt ++ ")"
  | .outOfBounds position target =>
    toString position.toNat ++ " is out of bounds for " ++ target
  | .reported text => text

/-- Why a schema could not be read, in words. -/
def ReadCause.message : ReadCause → String
  | .noSuchTable => "no such table"
  | .timedOut limit => "timed out after " ++ Text.duration limit
  | .reported text => text

/-- Why a name cannot be used, in words. -/
def NameCause.message : NameCause → String
  | .empty => "identifier cannot be empty"
  | .badStart name => "'" ++ name ++ "' must start with a letter or underscore"
  | .badCharacter name => "'" ++ name ++ "' can only contain letters, numbers, and underscores"
  | .tooLong name => "'" ++ name ++ "' is too long (max 64 characters)"
  | .reserved name => "'" ++ name ++ "' is a reserved keyword"
  | .reported text => text

/-- What is missing, in words. -/
def StorageCause.message : StorageCause → String
  | .unboundParameter name => "no value bound for parameter @" ++ name
  | .notJson column => "column '" ++ column ++ "' is not valid JSON"
  | .noColumn column => "row has no column '" ++ column ++ "'"
  | .reported text => text

namespace Error

/-- An error in words. -/
def message : Error → String
  | .expression cause => "Unsupported expression: " ++ cause.message
  | .method name =>
    "Unsupported method '" ++ name ++ "': only Contains, StartsWith and EndsWith are translated"
  | .projection field cause =>
    "Unsupported projection for field '" ++ field ++ "': " ++ cause.message
  | .comparison cause => "Ambiguous comparison: " ++ cause.message
  | .index cause => "Invalid array index: " ++ cause.message
  | .schemaRead table cause =>
    "Failed to read schema of table '" ++ table ++ "': " ++ cause.message
  | .conflict table path existing requested =>
    "Virtual column conflict on '" ++ table ++ "' for " ++ path ++ ": registered as " ++ existing ++
      ", requested " ++ requested
  | .identifier cause => "Invalid identifier: " ++ cause.message
  | .storage cause => "Storage error: " ++ cause.message
  | .lock text => "Lock error: " ++ text

/-- A failed read of a schema may succeed the next time; nothing else does. -/
def isRetryable : Error → Bool
  | .schemaRead .. => true
  | _ => false

/-- The error of taking a lock whose holder failed. -/
def poisonedLock : Error := .lock "poisoned lock: another task failed inside"

end Error

end DocumentQuery
