import DocumentQuery.Proofs.Result
import DocumentQuery.Sql.Statement

/-!
# Final results

An error of a name, of an expression or of what is compiled from one lies in what
was asked. It comes back whenever it is asked again.

* `IsFinal`: a result that has no failure which can be retried;
* `Sql.isFinal_checkName`, `Path.isFinal_checkName`: names;
* `Expr.isFinal_evaluate`, `Expr.isFinal_path?`: expressions and their paths;
* `Clause.isFinal_ofExpr?`, `Projection.isFinal_ofExpr?`, `Statement.isFinal_filtered`,
  `Statement.isFinal_projected`: what is compiled.
-/

namespace DocumentQuery

variable {α β : Type} {x : Except Error α}

/-- If the result is an error, trying again cannot help. -/
def IsFinal (x : Except Error α) : Prop := ∀ fault, x = .error fault → fault.isRetryable = false

theorem isFinal_ok (a : α) : IsFinal (.ok a) := fun _ h => by cases h

theorem isFinal_error {fault : Error} (h : fault.isRetryable = false) :
    IsFinal (.error fault : Except Error α) := fun _ heq => by cases heq; exact h

theorem IsFinal.not_isRetryable (h : IsFinal x) :
    ¬ ∃ fault, x = .error fault ∧ fault.isRetryable = true := by
  rintro ⟨fault, hfault, hretryable⟩
  cases (h fault hfault).symm.trans hretryable

theorem IsFinal.bind {f : α → Except Error β} (h : IsFinal x) (hf : ∀ a, IsFinal (f a)) :
    IsFinal (x >>= f) := by
  intro fault hfault
  rcases bind_eq_error.mp hfault with hx | ⟨a, _, ha⟩
  · exact h fault hx
  · exact hf a fault ha

theorem IsFinal.map (h : IsFinal x) (f : α → β) : IsFinal (x.map f) :=
  fun fault hfault => h fault (map_eq_error.mp hfault)

/-! ## Names -/

theorem Sql.isFinal_checkName (name : String) : IsFinal (checkName name) := by
  unfold checkName
  split
  · exact isFinal_error rfl
  iterate 4
    split
    · exact isFinal_error rfl
  exact isFinal_ok _

theorem Path.isFinal_checkName (name : String) : IsFinal (checkName name) := by
  unfold checkName
  split
  · exact isFinal_error rfl
  split
  · exact isFinal_ok _
  · exact isFinal_error rfl

/-! ## Evaluation -/

theorem Value.isFinal_compareFloats (a b : Float) : IsFinal (compareFloats a b) := by
  unfold compareFloats
  split
  · exact isFinal_ok _
  · exact isFinal_error rfl

theorem Value.isFinal_compare (a b : Value) : IsFinal (a.compare b) := by
  unfold compare
  split
  all_goals first
    | exact isFinal_ok _
    | exact isFinal_compareFloats _ _
    | exact isFinal_error rfl

theorem Comparison.isFinal_holds (op : Comparison) (a b : Value) : IsFinal (op.holds a b) := by
  cases op with
  | equal | notEqual => exact isFinal_ok _
  | _ => exact (Value.isFinal_compare a b).map _

theorem TextTest.isFinal_holds? [RegexLibrary] (test : TextTest) (text needle : String) :
    IsFinal (test.holds? text needle) := by
  unfold holds? Like.holds?
  split
  · exact isFinal_ok _
  split
  · exact isFinal_error rfl
  · exact isFinal_ok _

namespace Expr

theorem isFinal_asBoolean (e : Expr) (value : Value) : IsFinal (e.asBoolean value) := by
  unfold asBoolean
  split
  · exact isFinal_ok _
  · exact isFinal_error rfl

theorem isFinal_asPosition (e : Expr) (value : Except Error Value) :
    IsFinal (e.asPosition value) := by
  unfold asPosition
  split
  · exact isFinal_error rfl
  · split
    · exact isFinal_ok _
    · exact isFinal_error rfl
  · exact isFinal_error rfl

theorem isFinal_memberOf (target : Expr) (name : String) (value : Json) :
    IsFinal (memberOf target name value) := by
  unfold memberOf
  split
  · exact isFinal_ok _
  · exact isFinal_error rfl

theorem isFinal_itemOf (target : Expr) (position : UInt64) (value : Json) :
    IsFinal (itemOf target position value) := by
  unfold itemOf
  split
  · exact isFinal_ok _
  · exact isFinal_error rfl

variable [RegexLibrary]

theorem isFinal_testValues (method : String) (test : TextTest) (a b : Value) :
    IsFinal (testValues method test a b) := by
  unfold testValues
  split
  · exact (test.isFinal_holds? _ _).map _
  · exact isFinal_error rfl

/-- A read of a captured variable is final: whatever is wrong with a position in it is
reported as an error of the position. -/
theorem isFinal_captured? : (e : Expr) → IsFinal e.captured?
  | .captured name value => by
    rw [captured?]
    exact isFinal_ok value
  | .member target name => by
    rw [captured?]
    exact (isFinal_captured? target).bind fun value => isFinal_memberOf target name value
  | .index target position => by
    rw [captured?]
    exact (isFinal_captured? target).bind fun value =>
      (isFinal_asPosition _ _).bind fun _ => isFinal_itemOf _ _ _
  | .parameter | .constant _ | .compare .. | .logical .. | .call .. | .construct .. => by
    rw [captured?]
    exact isFinal_error rfl

theorem isFinal_evaluate : (e : Expr) → IsFinal e.evaluate
  | .parameter | .construct .. => by
    rw [evaluate]
    exact isFinal_error rfl
  | .constant _ | .captured .. => by
    rw [evaluate]
    exact isFinal_ok _
  | .member target name => by
    rw [evaluate]
    exact (isFinal_captured? target).bind fun _ =>
      (isFinal_memberOf _ _ _).bind fun _ => isFinal_ok _
  | .index target position => by
    rw [evaluate]
    exact (isFinal_captured? target).bind fun _ => (isFinal_asPosition _ _).bind fun _ =>
      (isFinal_itemOf _ _ _).bind fun _ => isFinal_ok _
  | .compare left op right => by
    rw [evaluate]
    exact (isFinal_evaluate left).bind fun _ => (isFinal_evaluate right).bind fun _ =>
      (op.isFinal_holds _ _).bind fun _ => isFinal_ok _
  | .logical left op right => by
    rw [evaluate]
    refine (isFinal_evaluate left).bind fun _ => (isFinal_asBoolean _ _).bind fun first => ?_
    split
    · exact isFinal_ok _
    · exact (isFinal_evaluate right).bind fun _ =>
        (isFinal_asBoolean _ _).bind fun _ => isFinal_ok _
  | .call target method [needle] => by
    rw [evaluate]
    split
    · exact isFinal_error rfl
    · exact (isFinal_evaluate target).bind fun _ => (isFinal_evaluate needle).bind fun _ =>
        isFinal_testValues _ _ _ _
  | .call target method [] | .call target method (_ :: _ :: _) => by
    rw [evaluate]
    · split <;> exact isFinal_error rfl
    · exact fun _ h => by cases h

/-! ## Compilation -/

theorem isFinal_evaluateIndex (e : Expr) : IsFinal e.evaluateIndex := isFinal_asPosition e _

theorem isFinal_path? (e : Expr) : IsFinal e.path? := by
  suffices hfrom : ∀ (whole e : Expr) (steps : List Path.Segment),
      IsFinal (pathFrom whole e steps) from hfrom e e []
  intro whole e steps
  induction e, steps using pathFrom.induct with
  | case1 steps => exact isFinal_ok _
  | case2 target name steps fault h =>
    rw [pathFrom, h]
    exact isFinal_error (Path.isFinal_checkName name fault h)
  | case3 target name steps h ih =>
    rw [pathFrom, h]
    exact ih
  | case4 target position steps fault h =>
    rw [pathFrom, h]
    exact isFinal_error (isFinal_evaluateIndex position fault h)
  | case5 target position steps index h ih =>
    rw [pathFrom, h]
    exact ih
  | case6 e steps hparameter hmember hindex =>
    rw [pathFrom]
    · exact isFinal_error rfl
    all_goals assumption

end Expr

section Library

variable [RegexLibrary]

theorem Condition.isFinal_ofComparison (left : Expr) (op : Comparison) (right : Expr) :
    IsFinal (ofComparison left op right) := by
  have hbetween (path value : Expr) (op : Comparison) : IsFinal (do
      let path ← path.path?
      let value ← value.evaluate
      return (⟨path, .compare op, value⟩ : Condition)) :=
    path.isFinal_path?.bind fun _ => value.isFinal_evaluate.bind fun _ => isFinal_ok _
  unfold ofComparison
  split
  · exact hbetween left right op
  · exact hbetween right left op.mirrored
  · exact isFinal_error rfl
  · exact isFinal_error rfl

theorem Condition.isFinal_ofCall (target : Expr) (method : String) (arguments : List Expr) :
    IsFinal (ofCall target method arguments) := by
  unfold ofCall
  split
  · exact isFinal_error rfl
  split
  · split
    · refine target.isFinal_path?.bind fun _ => (Expr.isFinal_evaluate _).bind fun value => ?_
      split
      · exact isFinal_ok _
      · exact isFinal_error rfl
    · exact isFinal_error rfl
  · exact isFinal_error rfl

theorem Filter.isFinal_ofExpr? (e : Expr) : IsFinal (ofExpr? e) := by
  induction e using ofExpr?.induct with
  | case1 left op right => exact (Condition.isFinal_ofComparison left op right).map _
  | case2 target method arguments => exact (Condition.isFinal_ofCall target method arguments).map _
  | case3 left op right ihl ihr =>
    exact ihl.bind fun _ => ihr.bind fun _ => isFinal_ok _
  | case4 e hcompare hcall hlogical =>
    rw [ofExpr?]
    · exact isFinal_error rfl
    all_goals assumption

theorem Clause.isFinal_ofExpr? (s : Settings) (columns : ColumnMap) (e : Expr) :
    IsFinal (ofExpr? s columns e) := (Filter.isFinal_ofExpr? e).map _

theorem Projection.isFinal_ofExpr? (e : Expr) : IsFinal (ofExpr? e) := by
  have hpath (earlier : List String) (field : String) (source : Expr) :
      IsFinal (bindingPath earlier field source) := by
    unfold bindingPath
    split
    · exact isFinal_error rfl
    split
    · exact isFinal_error rfl
    split
    · exact isFinal_error rfl
    · exact source.isFinal_path?
  have hfields (bindings : List (String × Expr)) (earlier : List String) :
      IsFinal (fieldsAfter earlier bindings) := by
    induction bindings generalizing earlier with
    | nil => exact isFinal_ok _
    | cons binding rest ih =>
      exact (hpath earlier binding.1 binding.2).bind fun _ =>
        (ih (binding.1 :: earlier)).bind fun _ => isFinal_ok _
  unfold ofExpr?
  split
  · exact isFinal_error rfl
  · exact (hfields _ []).map _
  · exact isFinal_error rfl

end Library

theorem Statement.isFinal_filtered (s : Settings) (table : String) (clause : Clause) :
    IsFinal (filtered s table clause) :=
  (Sql.isFinal_checkName table).bind fun _ => isFinal_ok _

theorem Statement.isFinal_projected (s : Settings) (columns : ColumnMap) (table : String)
    (projection : Projection) (clause : Option Clause) :
    IsFinal (projected s columns table projection clause) := by
  refine (Sql.isFinal_checkName table).bind fun _ => ?_
  dsimp only
  split
  · exact (isFinal_error rfl).bind fun _ => by cases clause <;> exact isFinal_ok _
  · cases clause <;> exact isFinal_ok _

end DocumentQuery
