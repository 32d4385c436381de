import DocumentQuery.Expr.Printer
import DocumentQuery.Like.Fold
import DocumentQuery.Value.Order

/-!
# Evaluating an expression

Expressions that do not lead into the document have a value: constants, reads
of captured variables, and comparisons, logical operations and string
predicates over those. The second operand of a logical operation is evaluated
only if the first does not decide it.

* `Expr.evaluate`: the value of an expression;
* `Expr.captured?`: the piece of JSON that a read of a captured variable gives;
* `Expr.evaluateIndex`: the value of an expression as a position in an array.
-/

namespace DocumentQuery

/-- Whether two values stand in the relation of an operator. -/
def Comparison.holds (a b : Value) : Comparison → Except Error Bool
  | .equal => .ok (a.equals b)
  | .notEqual => .ok (!a.equals b)
  | .greater => (a.compare b).map (· == .gt)
  | .greaterOrEqual => (a.compare b).map (· != .lt)
  | .less => (a.compare b).map (· == .lt)
  | .lessOrEqual => (a.compare b).map (· != .gt)

variable [RegexLibrary]

/-- Whether a text passes a string predicate with a needle. -/
def TextTest.holds? (test : TextTest) (text needle : String) : Except Error Bool :=
  Like.holds? text.toList (test.pattern needle.toList)

namespace Expr

/-- The value of an operand `e` of a logical operation as a truth value. -/
def asBoolean (e : Expr) (value : Value) : Except Error Bool :=
  match value with
  | .boolean b => .ok b
  | value => .error (.expression (.notBoolean e.text value.kind))

/-- The value of an expression `e` as a position. -/
def asPosition (e : Expr) : Except Error Value → Except Error UInt64
  | .error fault => .error (.index (.unevaluable e.text fault.message))
  | .ok (.integer i) =>
    if 0 ≤ i.toInt then .ok (UInt64.ofNat i.toInt.toNat)
    else .error (.index (.negative e.text i))
  | .ok value => .error (.index (.notInteger e.text value.kind))

/-- The member `name` of the captured value that `target` gives. -/
def memberOf (target : Expr) (name : String) (value : Json) : Except Error Json :=
  match value.member? name with
  | some found => .ok found
  | none => .error (.expression (.noMember target.text name))

/-- The item at a position of the captured value that `target` gives. -/
def itemOf (target : Expr) (position : UInt64) (value : Json) : Except Error Json :=
  match value.element? position.toNat with
  | some found => .ok found
  | none => .error (.index (.outOfBounds position target.text))

/-- The truth of a string predicate over two values. -/
def testValues (method : String) (test : TextTest) : Value → Value → Except Error Value
  | .text text, .text needle => (test.holds? text needle).map .boolean
  | target, needle => .error (.expression (.notTexts method target.kind needle.kind))

mutual

/-- The value of an expression. -/
def evaluate : Expr → Except Error Value
  | .parameter => .error (.expression (.node .parameter))
  | .construct _ _ => .error (.expression (.node .construct))
  | .constant value => .ok value
  | .captured _ value => .ok (Value.ofJson value)
  | .member target name => do
    let value ← captured? target
    let found ← memberOf target name value
    return Value.ofJson found
  | .index target position => do
    let value ← captured? target
    let position ← asPosition position (evaluate position)
    let found ← itemOf target position value
    return Value.ofJson found
  | .compare left op right => do
    let a ← evaluate left
    let b ← evaluate right
    let holds ← op.holds a b
    return .boolean holds
  | .logical left op right => do
    let a ← evaluate left
    let first ← asBoolean left a
    if first == (op == .either) then return .boolean first
    let b ← evaluate right
    let second ← asBoolean right b
    return .boolean second
  | .call target method [needle] =>
    match TextTest.ofMethod? method with
    | none => .error (.method method)
    | some test => do
      let a ← evaluate target
      let b ← evaluate needle
      testValues method test a b
  | .call _ method arguments =>
    match TextTest.ofMethod? method with
    | none => .error (.method method)
    | some _ => .error (.expression (.argumentCount method arguments.length))

/-- The piece of JSON that a chain of accesses to a captured variable reads. -/
def captured? : Expr → Except Error Json
  | .captured _ value => .ok value
  | .member target name => do
    let value ← captured? target
    memberOf target name value
  | .index target position => do
    let value ← captured? target
    let position ← asPosition position (evaluate position)
    itemOf target position value
  | .parameter => .error (.expression (.node .parameter))
  | .constant _ => .error (.expression (.node .constant))
  | .compare _ _ _ => .error (.expression (.node .compare))
  | .logical _ _ _ => .error (.expression (.node .logical))
  | .call _ _ _ => .error (.expression (.node .call))
  | .construct _ _ => .error (.expression (.node .construct))

end

/-- The value of an expression as a position: an integer that is not negative. -/
def evaluateIndex (e : Expr) : Except Error UInt64 := asPosition e e.evaluate

end Expr

end DocumentQuery
