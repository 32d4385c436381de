import DocumentQuery.Expr.Path
import DocumentQuery.Proofs.Result
import DocumentQuery.Regex.Standard

/-!
# Chains of accesses

The same accesses can be made to the document and to a captured variable. On
the document they are a path; on a variable they are carried out. Both mean the
same: what is read from a variable is what the path leads to in its value.

* `Access`, `Expr.through`: accesses, and the expression that makes them;
* `Path.Segment.of?`, `Json.at?`: what a step and a path lead to;
* `Access.LeadsTo`: the step of a path that an access is;
* `Expr.path?_through`: the path of accesses to the document;
* `Expr.captured?_through`: the result of accesses to a captured variable;
* `Expr.evaluate_captured_through`: both mean the same.
-/

namespace DocumentQuery

/-- An access to a member, or to the item at a position, which any expression can give. -/
inductive Access
  | member (name : String)
  | index (position : Expr)

/-- The access to an expression. -/
def Access.to (base : Expr) : Access → Expr
  | .member name => .member base name
  | .index position => .index base position

/-- The accesses to an expression one after the other. -/
def Expr.through (base : Expr) (accesses : List Access) : Expr := accesses.foldl Access.to base

/-- What a step leads to in a value. -/
def Path.Segment.of? (value : Json) : Path.Segment → Option Json
  | .field name => value.member? name
  | .index position => value.element? position.toNat

/-- What steps lead to one after the other. -/
def Json.at? (value : Json) (steps : List Path.Segment) : Option Json :=
  steps.foldlM Path.Segment.of? value

variable {base : Expr} {access : Access} {accesses : List Access} {step : Path.Segment}
  {steps : List Path.Segment} {value found : Json}

/-! ## Accesses to the document -/

section Library

variable [RegexLibrary]

/-- The step of a path that an access is: to a member whose name a path can hold, or to the
position that an expression comes to. -/
inductive Access.LeadsTo : Access → Path.Segment → Prop
  | member {name : String} (h : Path.checkName name = .ok ()) : LeadsTo (.member name) (.field name)
  | index {position : Expr} {i : UInt64} (h : position.evaluateIndex = .ok i) :
    LeadsTo (.index position) (.index i)

namespace Expr

theorem pathFrom_access {whole : Expr} {p : Path} :
    pathFrom whole (access.to base) steps = .ok p ↔
      ∃ step, access.LeadsTo step ∧ pathFrom whole base (step :: steps) = .ok p := by
  cases access with
  | member name =>
    rw [Access.to, pathFrom]
    constructor
    · intro h
      split at h
      · cases h
      · rename_i hname
        exact ⟨_, .member hname, h⟩
    · rintro ⟨_, ⟨hname⟩, h⟩
      rw [hname]
      exact h
  | index position =>
    rw [Access.to, pathFrom]
    constructor
    · intro h
      split at h
      · cases h
      · rename_i i hposition
        exact ⟨_, .index hposition, h⟩
    · rintro ⟨_, _ | hposition, h⟩
      rw [hposition]
      exact h

/-- A path is put together from its end: the steps of the accesses come before those that the
accesses around them have given. -/
theorem pathFrom_through {whole : Expr} {p : Path} :
    pathFrom whole (base.through accesses) steps = .ok p ↔
      ∃ inner, List.Forall₂ Access.LeadsTo accesses inner ∧
        pathFrom whole base (inner ++ steps) = .ok p := by
  induction accesses generalizing base with
  | nil => simp [through]
  | cons access accesses ih =>
    have hthrough : base.through (access :: accesses) = (access.to base).through accesses := rfl
    rw [hthrough, ih]
    simp only [pathFrom_access, List.forall₂_cons_left_iff]
    constructor
    · rintro ⟨inner, hinner, step, hstep, h⟩
      exact ⟨step :: inner, ⟨step, inner, hstep, hinner, rfl⟩, h⟩
    · rintro ⟨_, ⟨step, inner, hstep, hinner, rfl⟩, h⟩
      exact ⟨inner, hinner, step, hstep, h⟩

/-- The path of accesses to the document is made of their steps in order. -/
theorem path?_through {p : Path} :
    (Expr.parameter.through accesses).path? = .ok p ↔
      List.Forall₂ Access.LeadsTo accesses p.segments := by
  rw [path?, pathFrom_through]
  constructor
  · rintro ⟨inner, hinner, h⟩
    rw [List.append_nil] at h
    cases h
    exact hinner
  · intro h
    refine ⟨p.segments, h, ?_⟩
    rw [List.append_nil]
    rfl

/-! ## Accesses to a captured variable -/

omit [RegexLibrary] in
theorem memberOf_eq_ok {name : String} :
    memberOf base name value = .ok found ↔ value.member? name = some found := by
  unfold memberOf
  split <;> rename_i h <;> simp [h]

omit [RegexLibrary] in
theorem itemOf_eq_ok {position : UInt64} :
    itemOf base position value = .ok found ↔ value.element? position.toNat = some found := by
  unfold itemOf
  split <;> rename_i h <;> simp [h]

/-- What is read by an access is what its step leads to in what was read before. -/
theorem captured?_access (h : access.LeadsTo step) :
    (access.to base).captured? = .ok found ↔
      ∃ value, base.captured? = .ok value ∧ step.of? value = some found := by
  cases h with
  | member =>
    rw [Access.to, captured?, bind_eq_ok]
    simp only [memberOf_eq_ok, Path.Segment.of?]
  | @index position i h =>
    have hposition : asPosition position position.evaluate = .ok i := h
    rw [Access.to, captured?, bind_eq_ok]
    refine exists_congr fun value => and_congr_right fun _ => ?_
    rw [hposition]
    exact itemOf_eq_ok

/-- What is read by accesses is what their steps lead to. -/
theorem captured?_through (h : List.Forall₂ Access.LeadsTo accesses steps) :
    (base.through accesses).captured? = .ok found ↔
      ∃ value, base.captured? = .ok value ∧ value.at? steps = some found := by
  induction h generalizing base with
  | nil => simp [through, Json.at?]
  | @cons access step accesses steps hstep _ ih =>
    have hthrough : base.through (access :: accesses) = (access.to base).through accesses := rfl
    have hat (value : Json) :
        value.at? (step :: steps) = (step.of? value).bind (·.at? steps) := rfl
    rw [hthrough, ih]
    simp only [captured?_access hstep, hat, Option.bind_eq_some_iff]
    constructor
    · rintro ⟨next, ⟨value, hbase, hnext⟩, h⟩
      exact ⟨value, hbase, next, hnext, h⟩
    · rintro ⟨value, hbase, next, hnext, h⟩
      exact ⟨next, ⟨value, hbase, hnext⟩, h⟩

/-- The value of an access is that of the piece of JSON that it reads. -/
theorem evaluate_access (access : Access) (base : Expr) :
    (access.to base).evaluate = (access.to base).captured?.map Value.ofJson := by
  cases access with
  | member name =>
    rw [Access.to, evaluate, captured?]
    cases base.captured? with
    | error fault => rfl
    | ok value => cases memberOf base name value <;> rfl
  | index position =>
    rw [Access.to, evaluate, captured?]
    cases base.captured? with
    | error fault => rfl
    | ok value =>
      cases asPosition position position.evaluate with
      | error fault => rfl
      | ok i => cases itemOf base i value <;> rfl

theorem evaluate_through (hbase : base.evaluate = base.captured?.map Value.ofJson) :
    (base.through accesses).evaluate = (base.through accesses).captured?.map Value.ofJson := by
  induction accesses generalizing base with
  | nil => exact hbase
  | cons access accesses ih => exact ih (evaluate_access access base)

end Expr

/-! ## Both mean the same -/

/-- Accesses that are a path on the document mean this path on a captured variable: their value
is that of what the path leads to, and if it leads nowhere, they fail. -/
theorem Expr.evaluate_captured_through {p : Path}
    (h : (Expr.parameter.through accesses).path? = .ok p) (name : String) (document : Json) :
    (∀ found, document.at? p.segments = some found →
        ((captured name document).through accesses).evaluate = .ok (Value.ofJson found)) ∧
      (document.at? p.segments = none →
        ∃ fault, ((captured name document).through accesses).evaluate = .error fault) := by
  have hread {found : Json} : ((captured name document).through accesses).captured? = .ok found ↔
      document.at? p.segments = some found := by
    rw [captured?_through (path?_through.mp h)]
    simp [captured?]
  have hvalue := @evaluate_through (captured name document) accesses _ rfl
  rw [hvalue]
  refine ⟨fun found hfound => ?_, fun hnone => ?_⟩
  · rw [hread.mpr hfound]
    rfl
  · cases hcaptured : ((captured name document).through accesses).captured? with
    | error fault => exact ⟨fault, rfl⟩
    | ok found =>
      rw [hread.mp hcaptured] at hnone
      cases hnone

end Library

/-- The name of an item, whose position is itself read from a captured variable. -/
def nameOfFirst : List Access :=
  [.member "Items",
    .index (.index (.captured "order" (.array [.number (.natural 1)])) (.constant (.integer 0))),
    .member "Name"]

theorem Expr.evaluate_captured_through_nameOfFirst :
    (Expr.parameter.through nameOfFirst).path? = .ok ⟨[.field "Items", .index 1, .field "Name"]⟩ ∧
      ((captured "d" (.object [("Items", .array [.null, .object [("Name", .string "Pen")]])])
        ).through nameOfFirst).evaluate = .ok (.text "Pen") ∧
      ∃ fault, ((captured "d" (.object [("Items", .array [.null])])
        ).through nameOfFirst).evaluate = .error fault := by
  have hpath : (Expr.parameter.through nameOfFirst).path? =
      .ok ⟨[.field "Items", .index 1, .field "Name"]⟩ := by decide +kernel
  refine ⟨hpath, ?_, ?_⟩
  · exact (evaluate_captured_through hpath "d" _).1 (.string "Pen") rfl
  · exact (evaluate_captured_through hpath "d" _).2 rfl

end DocumentQuery
