import DocumentQuery.Proofs.Expr.Access
import DocumentQuery.Proofs.Path.RoundTrip
import DocumentQuery.Regex.Standard

/-!
# Chains from the outside and from the inside

The path of a chain is looked for from its outermost access to its base, and
put together from its end. Said from the inside it is simpler: the document has
the path without steps, and an access has the path of its target with one step
more. Both ways give the same paths, but they meet the parts of a chain in
opposite order: the outermost access that is no step decides the error, and the
base only if there is none.

* `Access.step?`: the step that an access is, or why it is none;
* `Expr.base`, `Expr.accesses`: the two parts of any expression;
* `Expr.outwardPath?`: the path of an expression, said from the inside;
* `Expr.path?_eq`: what is met from the outside, in order;
* `Expr.path?_eq_ok_outward`, `Expr.path?_eq_error`: the paths and the errors;
* `Expr.path?_unwinds`: both together.
-/

namespace DocumentQuery

variable {e target : Expr} {a : Access} {as : List Access} {step : Path.Segment}
  {steps : List Path.Segment} {p : Path} {fault : Error}

/-- The step that an access is, or why it is none. -/
def Access.step? [RegexLibrary] : Access → Except Error Path.Segment
  | .member name => (Path.checkName name).map fun _ => .field name
  | .index position => position.evaluateIndex.map .index

theorem Access.step?_eq_ok [RegexLibrary] : a.step? = .ok step ↔ a.LeadsTo step := by
  cases a with
  | member name =>
    rw [step?, map_eq_ok]
    constructor
    · rintro ⟨_, hname, rfl⟩
      exact .member hname
    · rintro ⟨hname⟩
      exact ⟨(), hname, rfl⟩
  | index position =>
    rw [step?, map_eq_ok]
    constructor
    · rintro ⟨i, hposition, rfl⟩
      exact .index hposition
    · rintro (_ | hposition)
      exact ⟨_, hposition, rfl⟩

namespace Expr

/-! ## Base and accesses -/

/-- What is left of an expression without its accesses. -/
def base : Expr → Expr
  | .member target _ => target.base
  | .index target _ => target.base
  | e => e

/-- The accesses of an expression, the innermost first. -/
def accesses : Expr → List Access
  | .member target name => target.accesses ++ [.member name]
  | .index target position => target.accesses ++ [.index position]
  | _ => []

theorem through_concat : e.through (as ++ [a]) = a.to (e.through as) :=
  List.foldl_concat _ _ _ _

/-- An expression makes its accesses to its base. -/
theorem through_accesses (e : Expr) : e.base.through e.accesses = e := by
  induction e using base.induct with
  | case1 target name ih => rw [base, accesses, through_concat, ih, Access.to]
  | case2 target position ih => rw [base, accesses, through_concat, ih, Access.to]
  | case3 e hmember hindex =>
    cases e with
    | member target name => exact absurd rfl (hmember target name)
    | index target position => exact absurd rfl (hindex target position)
    | _ => rfl

/-- A base is the document, or it is neither the document nor an access. -/
theorem base_cases (e : Expr) :
    e.isDocumentPath = true ∧ e.base = .parameter ∨
      e.isDocumentPath = false ∧ e.base ≠ .parameter ∧
        (∀ target name, e.base ≠ .member target name) ∧
          ∀ target position, e.base ≠ .index target position := by
  induction e using base.induct with
  | case1 target name ih => exact ih
  | case2 target position ih => exact ih
  | case3 e hmember hindex =>
    cases e with
    | parameter => exact .inl ⟨rfl, rfl⟩
    | member target name => exact absurd rfl (hmember target name)
    | index target position => exact absurd rfl (hindex target position)
    | _ => exact .inr ⟨rfl, by simp [base], by simp [base], by simp [base]⟩

/-! ## From the inside -/

section Library

variable [RegexLibrary]

/-- The path of an expression: none for the document itself, and one step more for an access. -/
def outwardPath? : Expr → Except Error Path
  | .parameter => .ok .root
  | .member target name => do
    let path ← target.outwardPath?
    path.field name
  | .index target position => do
    let path ← target.outwardPath?
    let position ← position.evaluateIndex
    return path.index position
  | e => .error (.expression (.node e.kind))

theorem outwardPath?_access :
    (a.to e).outwardPath? = .ok p ↔
      ∃ q step, e.outwardPath? = .ok q ∧ a.LeadsTo step ∧ ⟨q.segments ++ [step]⟩ = p := by
  cases a with
  | member name =>
    rw [Access.to, outwardPath?, bind_eq_ok]
    constructor
    · rintro ⟨q, hq, h⟩
      obtain ⟨_, hname, h⟩ := bind_eq_ok.mp h
      cases h
      exact ⟨q, _, hq, .member hname, rfl⟩
    · rintro ⟨q, _, hq, ⟨hname⟩, rfl⟩
      exact ⟨q, hq, bind_eq_ok.mpr ⟨(), hname, rfl⟩⟩
  | index position =>
    rw [Access.to, outwardPath?, bind_eq_ok]
    constructor
    · rintro ⟨q, hq, h⟩
      obtain ⟨i, hposition, h⟩ := bind_eq_ok.mp h
      cases h
      exact ⟨q, _, hq, .index hposition, rfl⟩
    · rintro ⟨q, _, hq, _ | hposition, rfl⟩
      exact ⟨q, hq, bind_eq_ok.mpr ⟨_, hposition, rfl⟩⟩

theorem outwardPath?_through :
    (e.through as).outwardPath? = .ok p ↔
      ∃ q steps, e.outwardPath? = .ok q ∧ List.Forall₂ Access.LeadsTo as steps ∧
        ⟨q.segments ++ steps⟩ = p := by
  induction as generalizing e with
  | nil => simp [through]
  | cons a as ih =>
    have hthrough : e.through (a :: as) = (a.to e).through as := rfl
    rw [hthrough, ih]
    simp only [outwardPath?_access, List.forall₂_cons_left_iff]
    constructor
    · rintro ⟨_, steps, ⟨q, step, hq, hstep, rfl⟩, hsteps, rfl⟩
      exact ⟨q, step :: steps, hq, ⟨step, steps, hstep, hsteps, rfl⟩, by simp⟩
    · rintro ⟨q, _, hq, ⟨step, steps, hstep, hsteps, rfl⟩, rfl⟩
      exact ⟨_, steps, ⟨q, step, hq, hstep, rfl⟩, hsteps, by simp⟩

theorem outwardPath?_base (e : Expr) :
    e.base.outwardPath? =
      if e.isDocumentPath then .ok .root else .error (.expression (.node e.base.kind)) := by
  rcases e.base_cases with ⟨hpath, hbase⟩ | ⟨hpath, hparameter, hmember, hindex⟩
  · rw [hbase, hpath]
    rfl
  · rw [outwardPath?, hpath]
    · rfl
    · exact hparameter
    · exact hmember
    · exact hindex

/-! ## From the outside -/

theorem pathFrom_access_eq {whole : Expr} :
    pathFrom whole (a.to e) steps =
      a.step? >>= fun step => pathFrom whole e (step :: steps) := by
  cases a with
  | member name =>
    rw [Access.to, pathFrom, Access.step?]
    cases Path.checkName name <;> rfl
  | index position =>
    rw [Access.to, pathFrom, Access.step?]
    cases position.evaluateIndex <;> rfl

/-- The outermost access is met first, and its step comes last. -/
theorem pathFrom_through_eq {whole : Expr} :
    pathFrom whole (e.through as) steps =
      as.reverse.mapM Access.step? >>= fun found =>
        pathFrom whole e (found.reverse ++ steps) := by
  induction as generalizing e with
  | nil => rfl
  | cons a as ih =>
    have hthrough : e.through (a :: as) = (a.to e).through as := rfl
    rw [hthrough, ih, List.reverse_cons, List.mapM_append, List.mapM_cons, List.mapM_nil]
    cases as.reverse.mapM Access.step? with
    | error fault => rfl
    | ok found =>
      have haccess := @pathFrom_access_eq e a (found.reverse ++ steps) _ whole
      cases hstep : a.step? with
      | error fault =>
        rw [hstep] at haccess
        exact haccess
      | ok step =>
        rw [hstep] at haccess
        refine haccess.trans ?_
        change _ = pathFrom whole e ((found ++ [step]).reverse ++ steps)
        rw [List.reverse_concat]
        rfl

/-- The document gives the steps that were met around it; any other base is the last to fail. -/
theorem pathFrom_base {whole : Expr} (e : Expr) (steps : List Path.Segment) :
    pathFrom whole e.base steps =
      if e.isDocumentPath then .ok ⟨steps⟩
      else .error (.expression (.insidePath e.base.kind whole.text)) := by
  rcases e.base_cases with ⟨hpath, hbase⟩ | ⟨hpath, hparameter, hmember, hindex⟩
  · rw [hbase, hpath]
    rfl
  · rw [pathFrom, hpath]
    · rfl
    · exact hparameter
    · exact hmember
    · exact hindex

/-- The accesses are met from the outermost to the innermost, the base last. -/
theorem path?_eq (e : Expr) :
    e.path? = e.accesses.reverse.mapM Access.step? >>= fun found =>
      if e.isDocumentPath then .ok ⟨found.reverse⟩
      else .error (.expression (.insidePath e.base.kind e.text)) := by
  have hwhole := @pathFrom_through_eq e.base e.accesses [] _ e
  simp only [through_accesses, pathFrom_base, List.append_nil] at hwhole
  exact hwhole

/-! ## Paths and errors -/

theorem path?_eq_ok_outward : e.path? = .ok p ↔ e.outwardPath? = .ok p := by
  have houtside := @pathFrom_through e.base e.accesses [] _ e p
  have hinside := @outwardPath?_through e.base e.accesses p
  rw [through_accesses] at houtside hinside
  rw [path?, houtside, hinside]
  simp only [pathFrom_base, outwardPath?_base, List.append_nil]
  cases e.isDocumentPath with
  | false =>
    constructor
    · rintro ⟨_, _, ⟨⟩⟩
    · rintro ⟨_, _, ⟨⟩, _, _⟩
  | true =>
    constructor
    · rintro ⟨steps, hsteps, ⟨⟩⟩
      exact ⟨_, steps, rfl, hsteps, rfl⟩
    · rintro ⟨_, steps, ⟨⟩, hsteps, rfl⟩
      exact ⟨steps, hsteps, rfl⟩

/-- The outermost access that is no step decides the error, and the base only if there is none. -/
theorem path?_eq_error :
    e.path? = .error fault ↔
      (∃ inner access outer, e.accesses = inner ++ access :: outer ∧
        access.step? = .error fault ∧ ∀ other ∈ outer, ∃ step, other.LeadsTo step) ∨
      (∀ access ∈ e.accesses, ∃ step, access.LeadsTo step) ∧ e.base ≠ .parameter ∧
        fault = .expression (.insidePath e.base.kind e.text) := by
  rw [path?_eq, bind_eq_error, mapM_eq_error]
  refine or_congr ?_ ?_
  · constructor
    · rintro ⟨outer, access, inner, hsplit, houter, haccess⟩
      refine ⟨inner.reverse, access, outer.reverse, ?_, haccess, ?_⟩
      · rw [← List.reverse_reverse e.accesses, hsplit]
        simp
      · intro other hother
        obtain ⟨step, hstep⟩ := houter other (List.mem_reverse.mp hother)
        exact ⟨step, Access.step?_eq_ok.mp hstep⟩
    · rintro ⟨inner, access, outer, hsplit, haccess, houter⟩
      refine ⟨outer.reverse, access, inner.reverse, ?_, ?_, haccess⟩
      · rw [hsplit]
        simp
      · intro other hother
        obtain ⟨step, hstep⟩ := houter other (List.mem_reverse.mp hother)
        exact ⟨step, Access.step?_eq_ok.mpr hstep⟩
  · have hfound : (∃ found, e.accesses.reverse.mapM Access.step? = .ok found) ↔
        ∀ access ∈ e.accesses, ∃ step, access.LeadsTo step := by
      rw [exists_mapM_eq_ok]
      simp only [List.mem_reverse, Access.step?_eq_ok]
    rw [← hfound]
    rcases e.base_cases with ⟨hpath, hbase⟩ | ⟨hpath, hbase, _, _⟩
    · rw [hpath]
      constructor
      · rintro ⟨_, _, ⟨⟩⟩
      · rintro ⟨_, hnot, _⟩
        exact absurd hbase hnot
    · rw [hpath]
      constructor
      · rintro ⟨found, hok, ⟨⟩⟩
        exact ⟨⟨found, hok⟩, hbase, rfl⟩
      · rintro ⟨⟨found, hok⟩, _, rfl⟩
        exact ⟨found, hok, rfl⟩

/-- An expression has a path exactly if it has one said from the inside, which is the same; it
then is a chain of accesses to the document. Otherwise the outermost access that is no step
decides the error, and if all of them are steps, the base that is not the document. -/
theorem path?_unwinds (e : Expr) :
    (∀ p, e.path? = .ok p ↔ e.outwardPath? = .ok p) ∧
      (e.isDocumentPath = false → ∀ p, e.path? ≠ .ok p) ∧
      ∀ fault, e.path? = .error fault ↔
        (∃ inner access outer, e.accesses = inner ++ access :: outer ∧
          access.step? = .error fault ∧ ∀ other ∈ outer, ∃ step, other.LeadsTo step) ∨
        (∀ access ∈ e.accesses, ∃ step, access.LeadsTo step) ∧ e.base ≠ .parameter ∧
          fault = .expression (.insidePath e.base.kind e.text) := by
  refine ⟨fun p => path?_eq_ok_outward, fun hnot p h => ?_, fun fault => path?_eq_error⟩
  rw [isDocumentPath_of_path? h] at hnot
  cases hnot

end Library

/-- Of the two accesses at fault the outer one is the index, and the base is no document. -/
theorem path?_unwinds_negative :
    (Expr.index (.member .parameter "Items") (.constant (.integer 2))).path? =
        .ok ⟨[.field "Items", .index 2]⟩ ∧
      (Expr.captured "order" .null).isDocumentPath = false ∧
      (Expr.captured "order" .null).path? ≠ .ok .root ∧
      (Expr.member (.index (.member (.captured "order" .null) "\"")
          (.constant (.integer (-1)))) "Name").path? =
        .error (.index (.negative "-1" (-1))) := by
  refine ⟨((path?_unwinds _).1 _).mpr rfl, rfl, (path?_unwinds _).2.1 rfl _,
    ((path?_unwinds _).2.2 _).mpr (.inl ?_)⟩
  refine ⟨[.member "\""], .index (.constant (.integer (-1))), [.member "Name"], rfl, rfl, ?_⟩
  intro other hother
  cases List.mem_singleton.mp hother
  exact ⟨_, .member rfl⟩

end Expr

end DocumentQuery
