import DocumentQuery.Expr.Evaluate
import DocumentQuery.Proofs.Double.Order
import DocumentQuery.Proofs.Result
import DocumentQuery.Regex.Standard

/-!
# Equality and order of values

Equality is symmetric, and two values turned round have their order turned
round. The two agree but for floats: equality has a tolerance and the order has
none, so that of two close numbers that are not the same one is less although
they are equal; and an infinite float is not near itself.

* `Value.Compared`, `Value.compare_eq_ok`: the pairs of values that have an order;
* `Value.IsClose`, `Value.SameInfinity`: where equality and order part;
* `Value.Folds`: a comparison of two constants that comes out true;
* `Value.equals_coherent`: equality against itself and against the order.
-/

namespace DocumentQuery.Value

variable {a b : Value} {x y : Float} {o : Ordering}

/-! ## Numbers -/

/-- Two numbers, one of them a float, and the doubles that they stand for. -/
inductive Doubles : Value → Value → Float → Float → Prop
  | floats (x y : Float) : Doubles (.float x) (.float y) x y
  | left (x : Float) (j : Int64) : Doubles (.float x) (.integer j) x (Float.ofInt j.toInt)
  | right (i : Int64) (y : Float) : Doubles (.integer i) (.float y) (Float.ofInt i.toInt) y

theorem Doubles.symm (h : Doubles a b x y) : Doubles b a y x := by
  cases h with
  | floats => exact .floats y x
  | left x j => exact .right j x
  | right i y => exact .left y i

theorem compareFloats_eq_ok : compareFloats x y = .ok o ↔ order? x y = some o := by
  rw [compareFloats]
  cases order? x y with
  | none => exact iff_of_false (fun h => by cases h) (fun h => by cases h)
  | some p => exact ⟨fun h => by cases h; rfl, fun h => by cases h; rfl⟩

theorem Doubles.compare_eq_ok (h : Doubles a b x y) :
    a.compare b = .ok o ↔ order? x y = some o := by
  rw [← compareFloats_eq_ok]
  cases h <;> exact Iff.rfl

/-- Doubles that have an order are numbers, so that only their distance counts. -/
theorem Doubles.equals_eq (h : Doubles a b x y) (horder : order? x y = some o) :
    a.equals b = isNear x y := by
  cases h with
  | floats =>
    rw [equals, Double.isNaN_eq_false_of_order? horder, Bool.false_and, Bool.false_or]
  | left x j => exact Double.isNear_comm _ x
  | right i y => rfl

/-- Two different numbers, one of them a float, whose distance is below the tolerance. -/
def IsClose (a b : Value) : Prop := ∃ x y, Doubles a b x y ∧ Double.IsClose x y

/-- One and the same infinite float. -/
def SameInfinity (a b : Value) : Prop := ∃ x : Float, x.isInf = true ∧ a = .float x ∧ b = .float x

theorem Doubles.isClose_iff (h : Doubles a b x y) : IsClose a b ↔ Double.IsClose x y := by
  constructor
  · rintro ⟨_, _, hdoubles, hclose⟩
    cases h <;> cases hdoubles <;> exact hclose
  · exact fun hclose => ⟨x, y, h, hclose⟩

/-- An integer is no infinity, whatever it is compared with. -/
theorem Doubles.sameInfinity_iff (h : Doubles a b x y) :
    SameInfinity a b ↔ x.isInf = true ∧ x = y := by
  cases h with
  | floats =>
    constructor
    · rintro ⟨_, hinf, ⟨⟩, ⟨⟩⟩
      exact ⟨hinf, rfl⟩
    · rintro ⟨hinf, rfl⟩
      exact ⟨x, hinf, rfl, rfl⟩
  | left x j =>
    refine iff_of_false (fun ⟨_, _, _, hb⟩ => by cases hb) fun ⟨hinf, hsame⟩ => ?_
    exact Double.not_isInf (hsame ▸ Double.isFinite_ofInt j) hinf
  | right i y =>
    refine iff_of_false (fun ⟨_, _, ha, _⟩ => by cases ha) fun ⟨hinf, _⟩ => ?_
    exact Double.not_isInf (Double.isFinite_ofInt i) hinf

/-! ## Pairs that have an order -/

/-- Two values and their order. -/
inductive Compared : Value → Value → Ordering → Prop
  | nulls : Compared .null .null .eq
  | below {b : Value} (h : b ≠ .null) : Compared .null b .lt
  | above {a : Value} (h : a ≠ .null) : Compared a .null .gt
  | integers (i j : Int64) : Compared (.integer i) (.integer j) (Ord.compare i.toInt j.toInt)
  | texts (s t : String) : Compared (.text s) (.text t) (compareOfLessAndEq s t)
  | booleans (p q : Bool) : Compared (.boolean p) (.boolean q) (Ord.compare p.toNat q.toNat)
  | doubles {a b : Value} {x y : Float} {o : Ordering} (h : Doubles a b x y)
      (horder : order? x y = some o) : Compared a b o

theorem compare_null_left (h : b ≠ .null) : Value.null.compare b = .ok .lt := by
  cases b with
  | null => exact absurd rfl h
  | _ => rfl

theorem compare_null_right (h : a ≠ .null) : a.compare .null = .ok .gt := by
  cases a with
  | null => exact absurd rfl h
  | _ => rfl

theorem equals_null_left (h : b ≠ .null) : Value.null.equals b = false := by
  cases b with
  | null => exact absurd rfl h
  | _ => rfl

theorem compared_of_compare (h : a.compare b = .ok o) : Compared a b o := by
  -- Null has an order with every value, all others only within their kind or as numbers.
  by_cases ha : a = .null
  · subst ha
    by_cases hb : b = .null
    · subst hb
      cases h
      exact .nulls
    · rw [compare_null_left hb] at h
      cases h
      exact .below hb
  by_cases hb : b = .null
  · subst hb
    rw [compare_null_right ha] at h
    cases h
    exact .above ha
  cases a with
  | null => exact absurd rfl ha
  | integer i =>
    cases b with
    | null => exact absurd rfl hb
    | integer j =>
      cases h
      exact .integers i j
    | float y => exact .doubles (.right i y) ((Doubles.right i y).compare_eq_ok.mp h)
    | _ => cases h
  | float x =>
    cases b with
    | null => exact absurd rfl hb
    | integer j => exact .doubles (.left x j) ((Doubles.left x j).compare_eq_ok.mp h)
    | float y => exact .doubles (.floats x y) ((Doubles.floats x y).compare_eq_ok.mp h)
    | _ => cases h
  | text s =>
    cases b with
    | null => exact absurd rfl hb
    | text t =>
      cases h
      exact .texts s t
    | _ => cases h
  | boolean p =>
    cases b with
    | null => exact absurd rfl hb
    | boolean q =>
      cases h
      exact .booleans p q
    | _ => cases h

theorem compare_eq_ok : a.compare b = .ok o ↔ Compared a b o := by
  refine ⟨compared_of_compare, fun h => ?_⟩
  cases h with
  | below h => exact compare_null_left h
  | above h => exact compare_null_right h
  | doubles h horder => exact h.compare_eq_ok.mpr horder
  | _ => rfl

theorem Compared.swap (h : Compared a b o) : Compared b a o.swap := by
  cases h with
  | nulls => exact .nulls
  | below h => exact .above h
  | above h => exact .below h
  | integers i j =>
    rw [Int.compare_swap]
    exact .integers j i
  | texts s t =>
    rw [← compareOfLessAndEq_eq_swap String.le_antisymm String.le_total String.not_le]
    exact .texts t s
  | booleans p q =>
    rw [Nat.compare_swap]
    exact .booleans q p
  | doubles h horder =>
    refine .doubles h.symm ?_
    rw [Double.order?_swap, horder]
    rfl

/-! ## Equality -/

theorem equals_comm (a b : Value) : a.equals b = b.equals a := by
  cases a with
  | null => cases b <;> rfl
  | integer i =>
    cases b with
    | integer j => exact Bool.beq_comm
    | _ => rfl
  | float x =>
    cases b with
    | float y => rw [equals, equals, Bool.and_comm, Double.isNear_comm]
    | _ => rfl
  | text s =>
    cases b with
    | text t => exact Bool.beq_comm
    | _ => rfl
  | boolean p =>
    cases b with
    | boolean q => exact Bool.beq_comm
    | _ => rfl

theorem equals_self (h : ¬SameInfinity v v) : v.equals v = true := by
  cases v with
  | null => rfl
  | integer i => exact beq_self_eq_true i
  | float x =>
    rw [equals, Bool.and_self, Bool.or_eq_true]
    exact Double.isNaN_or_isNear_self fun hinf => h ⟨x, hinf, rfl, rfl⟩
  | text s => exact beq_self_eq_true s
  | boolean p => exact beq_self_eq_true p

/-- Only doubles are close without being the same. -/
theorem equals_iff_of_exact (hdoubles : ∀ x y, ¬Doubles a b x y)
    (h : o = .eq ↔ a.equals b = true) : a.equals b = true ↔ o = .eq ∨ IsClose a b :=
  h.symm.trans (or_iff_left fun ⟨x, y, hxy, _⟩ => hdoubles x y hxy).symm

theorem Compared.equals_iff (h : Compared a b o) (hinf : ¬SameInfinity a b) :
    a.equals b = true ↔ o = .eq ∨ IsClose a b := by
  cases h with
  | nulls => exact iff_of_true rfl (.inl rfl)
  | below h =>
    refine equals_iff_of_exact (fun _ _ h => by cases h) ?_
    rw [equals_null_left h]
    exact iff_of_false (fun h => by cases h) Bool.false_ne_true
  | above h =>
    refine equals_iff_of_exact (fun _ _ h => by cases h) ?_
    rw [equals_comm, equals_null_left h]
    exact iff_of_false (fun h => by cases h) Bool.false_ne_true
  | integers i j =>
    refine equals_iff_of_exact (fun _ _ h => by cases h) ?_
    rw [Int.compare_eq_eq, Int64.toInt_inj]
    exact beq_iff_eq.symm
  | texts s t =>
    refine equals_iff_of_exact (fun _ _ h => by cases h) ?_
    rw [compareOfLessAndEq_eq_eq String.le_refl String.not_le]
    exact beq_iff_eq.symm
  | booleans p q =>
    refine equals_iff_of_exact (fun _ _ h => by cases h) ?_
    cases p <;> cases q <;> decide
  -- Only here equality is not the order: it looks at the distance.
  | doubles h horder =>
    rw [h.sameInfinity_iff] at hinf
    rw [h.equals_eq horder, h.isClose_iff]
    exact Double.isNear_iff_of_order? horder hinf

theorem ne_eq_of_isClose (h : a.compare b = .ok o) (hclose : IsClose a b) : o ≠ .eq := by
  obtain ⟨x, y, hxy, hclose⟩ := hclose
  rintro rfl
  exact (Double.isClose_iff.mp hclose).2 (hxy.compare_eq_ok.mp h)

/-! ## Comparisons of constants -/

section Library

variable [RegexLibrary]

/-- Whether a comparison of two constants comes out true. -/
def Folds (a : Value) (op : Comparison) (b : Value) : Prop :=
  (Expr.compare (.constant a) op (.constant b)).evaluate = .ok (.boolean true)

theorem evaluate_compare (a b : Value) (op : Comparison) :
    (Expr.compare (.constant a) op (.constant b)).evaluate = (op.holds a b).map .boolean := by
  rw [Expr.evaluate, Expr.evaluate, Expr.evaluate]
  change (op.holds a b >>= fun holds => Except.ok (Value.boolean holds)) = _
  cases op.holds a b <;> rfl

theorem folds_iff {op : Comparison} : Folds a op b ↔ op.holds a b = .ok true := by
  rw [Folds, evaluate_compare, map_eq_ok]
  constructor
  · rintro ⟨_, h, ⟨⟩⟩
    exact h
  · exact fun h => ⟨true, h, rfl⟩

/-- The comparison that an order makes true. -/
def side : Ordering → Comparison
  | .lt => .less
  | .eq => .equal
  | .gt => .greater

theorem folds_equal_iff : Folds a .equal b ↔ a.equals b = true := by
  rw [folds_iff, Comparison.holds, Except.ok.injEq]

theorem folds_less_iff (h : a.compare b = .ok o) : Folds a .less b ↔ .less = side o := by
  rw [folds_iff, Comparison.holds, h]
  cases o <;> decide

theorem folds_greater_iff (h : a.compare b = .ok o) : Folds a .greater b ↔ .greater = side o := by
  rw [folds_iff, Comparison.holds, h]
  cases o <;> decide

theorem existsUnique_folds {ops : List Comparison} (hside : side o ∈ ops)
    (h : ∀ op ∈ ops, Folds a op b ↔ op = side o) : ∃! op, op ∈ ops ∧ Folds a op b :=
  ⟨side o, ⟨hside, (h _ hside).mpr rfl⟩, fun op hop => (h op hop.1).mp hop.2⟩

/-- Where equality agrees with the order, one comparison of the three is true. -/
theorem existsUnique_of_equals_iff (h : a.compare b = .ok o)
    (hequals : a.equals b = true ↔ o = .eq) :
    ∃! op, op ∈ [Comparison.less, .equal, .greater] ∧ Folds a op b := by
  have hequal : Folds a .equal b ↔ .equal = side o := by
    rw [folds_equal_iff, hequals]
    cases o <;> decide
  refine @existsUnique_folds _ _ o _ _ (by cases o <;> decide) ?_
  simp only [List.forall_mem_cons]
  exact ⟨folds_less_iff h, hequal, folds_greater_iff h, List.forall_mem_nil _⟩

/-- Unless the order is equality, one of the two strict comparisons is true. -/
theorem existsUnique_of_ne_eq (h : a.compare b = .ok o) (ho : o ≠ .eq) :
    ∃! op, op ∈ [Comparison.less, .greater] ∧ Folds a op b := by
  refine @existsUnique_folds _ _ o _ _ ?_ ?_
  · cases o with
    | eq => exact absurd rfl ho
    | _ => decide
  · simp only [List.forall_mem_cons]
    exact ⟨folds_less_iff h, folds_greater_iff h, List.forall_mem_nil _⟩

/-- Every value that is no infinite float is equal to itself, equality and order do not depend on
which value stands first, and unless both are the same infinity two ordered values are equal
exactly if the order says so or they are close. So one of the comparisons by less, equal and greater
is true; of close values both equality and one of the strict comparisons. -/
theorem equals_coherent :
    (∀ v : Value, ¬SameInfinity v v → v.equals v = true) ∧
    (∀ a b : Value, a.equals b = true ↔ b.equals a = true) ∧
    ∀ (a b : Value) (o : Ordering), a.compare b = .ok o →
      b.compare a = .ok o.swap ∧
      (¬SameInfinity a b →
        (a.equals b = true ↔ o = .eq ∨ IsClose a b) ∧
        (¬IsClose a b → ∃! op, op ∈ [Comparison.less, .equal, .greater] ∧ Folds a op b) ∧
        (IsClose a b → Folds a .equal b ∧
          ∃! op, op ∈ [Comparison.less, .greater] ∧ Folds a op b)) := by
  refine ⟨fun v => equals_self, fun a b => Bool.eq_iff_iff.mp (equals_comm a b), ?_⟩
  intro a b o h
  refine ⟨compare_eq_ok.mpr (compare_eq_ok.mp h).swap, fun hinf => ?_⟩
  have hequals := (compare_eq_ok.mp h).equals_iff hinf
  refine ⟨hequals, fun hclose => ?_, fun hclose => ⟨?_, ?_⟩⟩
  · exact existsUnique_of_equals_iff h (hequals.trans (or_iff_left hclose))
  · exact folds_equal_iff.mpr (hequals.mpr (.inr hclose))
  · exact existsUnique_of_ne_eq h (ne_eq_of_isClose h hclose)

end Library

theorem equals_coherent_sum :
    (¬SameInfinity (.float Float.nan) (.float Float.nan) ∧
      (Value.float Float.nan).equals (.float Float.nan) = true) ∧
    ((Value.integer 2).compare (.float 2.5) = .ok .lt ∧
      ¬SameInfinity (.integer 2) (.float 2.5) ∧ ¬IsClose (.integer 2) (.float 2.5) ∧
      (Value.float 2.5).compare (.integer 2) = .ok .gt ∧
      ∃! op, op ∈ [Comparison.less, .equal, .greater] ∧ Folds (.integer 2) op (.float 2.5)) ∧
    ((Value.float (0.1 + 0.2)).compare (.float 0.3) = .ok .gt ∧
      ¬SameInfinity (.float (0.1 + 0.2)) (.float 0.3) ∧
      IsClose (.float (0.1 + 0.2)) (.float 0.3) ∧
      (Value.float (0.1 + 0.2)).equals (.float 0.3) = true ∧
      ∃! op, op ∈ [Comparison.less, .greater] ∧
        Folds (.float (0.1 + 0.2)) op (.float 0.3)) := by
  obtain ⟨hself, _, hordered⟩ := equals_coherent
  have hnan : ¬SameInfinity (.float Float.nan) (.float Float.nan) := by
    rintro ⟨_, hinf, ⟨⟩, _⟩
    cases hinf
  have hinteger : ¬SameInfinity (.integer 2) (.float 2.5) := by
    rintro ⟨_, _, ⟨⟩, _⟩
  have hsum : ¬SameInfinity (.float (0.1 + 0.2)) (.float 0.3) := by
    rintro ⟨_, hinf, ⟨⟩, _⟩
    cases hinf
  have hfar : ¬IsClose (.integer 2) (.float 2.5) := by
    rw [(Doubles.right 2 2.5).isClose_iff, Double.isClose_iff]
    rintro ⟨⟨⟩, _⟩
  have hclose : IsClose (.float (0.1 + 0.2)) (.float 0.3) := by
    rw [(Doubles.floats _ _).isClose_iff, Double.isClose_iff]
    refine ⟨rfl, ?_⟩
    rintro ⟨⟩
  obtain ⟨hswap, hone⟩ := hordered (.integer 2) (.float 2.5) .lt rfl
  obtain ⟨_, hboth⟩ := hordered (.float (0.1 + 0.2)) (.float 0.3) .gt rfl
  obtain ⟨hequals, _, hstrict⟩ := hboth hsum
  exact ⟨⟨hnan, hself _ hnan⟩,
    ⟨rfl, hinteger, hfar, hswap, (hone hinteger).2.1 hfar⟩,
    ⟨rfl, hsum, hclose, hequals.mpr (.inr hclose), (hstrict hclose).2⟩⟩

/-- The sum of a tenth and two tenths is greater than three tenths, and equal to it; an infinity has
the order of equality with itself, and is not equal to itself. -/
theorem equals_incoherent :
    (Value.float (0.1 + 0.2)).compare (.float 0.3) = .ok .gt ∧
    (Value.float (0.1 + 0.2)).equals (.float 0.3) = true ∧
    Folds (.float (0.1 + 0.2)) .greater (.float 0.3) ∧
    Folds (.float (0.1 + 0.2)) .equal (.float 0.3) ∧
    (Value.float Float.inf).compare (.float Float.inf) = .ok .eq ∧
    (Value.float Float.inf).equals (.float Float.inf) = false ∧
    ∀ op ∈ [Comparison.less, .equal, .greater],
      ¬Folds (.float Float.inf) op (.float Float.inf) := by
  have horder : (Value.float Float.inf).compare (.float Float.inf) = .ok .eq := rfl
  refine ⟨rfl, rfl, (folds_greater_iff rfl).mpr rfl, folds_equal_iff.mpr rfl, horder, rfl, ?_⟩
  simp only [List.forall_mem_cons]
  refine ⟨fun h => ?_, fun h => ?_, fun h => ?_, List.forall_mem_nil _⟩
  · cases (folds_less_iff horder).mp h
  · cases folds_equal_iff.mp h
  · cases (folds_greater_iff horder).mp h

end DocumentQuery.Value
