import DocumentQuery.Proofs.Double.Rounding
import DocumentQuery.Value.Order

/-!
# Order and nearness of doubles

The finite doubles are rational numbers. Their order is that of the numbers, and
two of them are near if the numbers are: although the difference is rounded, it
is smaller than the tolerance exactly if it was so by more than half a unit of
the last place.

* `Double.value`: the rational number that a finite double is;
* `Double.order?_eq`, `Double.order?_swap`: the order;
* `Double.isNear_iff`: which doubles are near;
* `Double.IsClose`, `Double.isNear_iff_of_order?`: nearness against the order;
* `Double.isFinite_ofInt`: a 64-bit integer is a finite double.
-/

namespace DocumentQuery.Double

open Float.Model (UnpackedFloat Format)
open Float.Model.UnpackedFloat (Sign)
open Value (order? isNear tolerance)

variable {x y : Float}

/-- The rational number that a finite double is. -/
def value (x : Float) : ℚ :=
  match x.toModel.unpack with
  | .finite sign m e _ => sign.apply m * 2 ^ e
  | _ => 0

theorem isFormat (x : Float) : IsFormat x.toModel.unpack := (unpack_cases _).1

theorem value_eq (x : Float) : value x * 2 ^ 1074 = units x.toModel.unpack := by
  have h := isFormat x
  rw [value]
  cases hx : x.toModel.unpack with
  | finite sign m e hm =>
    rw [hx] at h
    have hexp : e + 1074 = ((e + 1074).toNat : Int) := by have := h.le; omega
    have hpow : (2 : ℚ) ^ e * 2 ^ 1074 = 2 ^ (e + 1074).toNat := by
      rw [← zpow_natCast, ← zpow_natCast, ← hexp, ← zpow_add₀ (by decide)]
      rfl
    simp only [units, apply_magnitude]
    push_cast
    rw [mul_assoc, hpow]
  | infinity => simp [units]
  | notANumber => simp [units]
  | zero => simp [units]

/-! ## Order -/

theorem lt_iff : x < y ↔ x.toModel.unpack.compare y.toModel.unpack = some .lt := by
  change decide ((x.toModel.unpack.compare y.toModel.unpack == some .lt) = true) = true ↔ _
  rw [decide_eq_true_iff, beq_iff_eq]

theorem beq_iff : (x == y) = true ↔ x.toModel.unpack.compare y.toModel.unpack = some .eq := by
  change (x.toModel.unpack.compare y.toModel.unpack == some .eq) = true ↔ _
  rw [beq_iff_eq]

theorem order?_eq_compare (x y : Float) :
    order? x y = x.toModel.unpack.compare y.toModel.unpack := by
  have hswap := compare_swap x.toModel.unpack y.toModel.unpack
  rw [order?]
  simp only [lt_iff, beq_iff, hswap]
  cases x.toModel.unpack.compare y.toModel.unpack with
  | none => rfl
  | some o => cases o <;> rfl

theorem order?_swap (x y : Float) : order? y x = (order? x y).map Ordering.swap := by
  rw [order?_eq_compare, order?_eq_compare, compare_swap]

theorem value_lt_iff : value x < value y ↔ units x.toModel.unpack < units y.toModel.unpack := by
  have hpos : (0 : ℚ) < 2 ^ 1074 := pow_pos two_pos _
  rw [← mul_lt_mul_iff_left₀ hpos, value_eq, value_eq, Int.cast_lt]

theorem order?_eq (hx : x.isFinite = true) (hy : y.isFinite = true) :
    order? x y = some (compare (value x) (value y)) := by
  rw [order?_eq_compare, compare_eq (isFormat x) (isFormat y) hx hy, Int.compare_eq_ite_lt]
  simp only [← value_lt_iff]
  rcases lt_trichotomy (value x) (value y) with hlt | heq | hgt
  · rw [if_pos hlt, compare_lt_iff_lt.mpr hlt]
  · rw [heq, if_neg (lt_irrefl _), if_neg (lt_irrefl _), compare_eq_iff_eq.mpr rfl]
  · rw [if_neg hgt.le.not_gt, if_pos hgt, compare_gt_iff_gt.mpr hgt]

/-! ## Nearness -/

theorem unpack_tolerance :
    tolerance.toModel.unpack = .finite .positive (2 ^ 52) (-104) (by decide) := rfl

theorem units_tolerance {p : Nat} (hp : p = 1022) :
    units tolerance.toModel.unpack = (2 ^ p : Nat) := by
  have hexp : ((-104 : Int) + 1074).toNat = 970 := rfl
  have hsum : 52 + 970 = p := by omega
  have hpositive (i : Int) : Sign.positive.apply i = i := rfl
  rw [unpack_tolerance, units, magnitude, hexp, ← Nat.pow_add, hsum, hpositive]

/-- The absolute value of a stored double is stored as it is. -/
theorem unpack_pack_abs {d : UnpackedFloat} (h : IsFormat d) :
    (Float.Model.pack (stored d).abs).unpack = (stored d).abs := by
  cases d with
  | infinity => exact @unpack_pack (.infinity .positive) trivial
  | notANumber => exact @unpack_pack .notANumber trivial
  | zero => exact @unpack_pack (.zero .positive) trivial
  | finite sign m e hm =>
    rw [stored]
    split
    · rename_i he
      have habs := @unpack_pack (.finite .positive m e hm) h
      rwa [stored, if_pos he] at habs
    · exact @unpack_pack (.infinity .positive) trivial

theorem compare_tolerance {d : UnpackedFloat} (h : IsFormat d) {p : Nat} (hp : p = 1022) :
    (stored d).abs.compare tolerance.toModel.unpack = some .lt ↔
      d.isFinite = true ∧ (units d).natAbs < 2 ^ p := by
  cases d with
  | infinity => exact iff_of_false (fun hlt => by cases hlt) (fun hlt => by cases hlt.1)
  | notANumber => exact iff_of_false (fun hlt => by cases hlt) (fun hlt => by cases hlt.1)
  | zero sign => exact iff_of_true rfl ⟨rfl, Nat.two_pow_pos p⟩
  | finite sign m e hm =>
    rw [units, natAbs_apply, Int.natAbs_natCast, stored]
    split
    · have habs := @compare_eq (.finite .positive m e hm) _ h (isFormat tolerance) rfl rfl
      rw [units_tolerance hp] at habs
      rw [UnpackedFloat.abs, habs, Option.some_inj, Int.compare_eq_lt]
      exact Int.ofNat_lt.trans (and_iff_right rfl).symm
    · rename_i he
      refine iff_of_false (fun hlt => by cases hlt) (fun hlt => Nat.not_lt.mpr ?_ hlt.2)
      calc 2 ^ p ≤ 2 ^ (e + 1074).toNat := Nat.pow_le_pow_right (by decide) (by omega)
        _ ≤ m * 2 ^ (e + 1074).toNat := Nat.le_mul_of_pos_left _ hm

theorem abs_lt_tolerance_iff {d : UnpackedFloat} (h : IsFormat d) {p : Nat} (hp : p = 1022) :
    (Float.ofModel (.pack d)).abs < tolerance ↔ d.isFinite = true ∧ (units d).natAbs < 2 ^ p := by
  have hunpack : (Float.ofModel (.pack d)).abs.toModel.unpack = (stored d).abs := by
    change (Float.Model.pack (Float.Model.pack d).unpack.abs).unpack = _
    rw [unpack_pack h, unpack_pack_abs h]
  rw [lt_iff, hunpack, compare_tolerance h hp]

/-- What is not finite has no finite difference from anything. -/
theorem sub_cases (u v : UnpackedFloat) :
    u.isFinite = true ∧ v.isFinite = true ∨ IsFormat (UnpackedFloat.sub Format.binary64 u v) ∧
      (UnpackedFloat.sub Format.binary64 u v).isFinite = false ∧
        (u.isFinite = false ∨ v.isFinite = false) := by
  cases u with
  | infinity s =>
    cases v with
    | infinity t => cases s <;> cases t <;> exact .inr ⟨trivial, rfl, .inl rfl⟩
    | _ => exact .inr ⟨trivial, rfl, .inl rfl⟩
  | notANumber => exact .inr ⟨trivial, rfl, .inl rfl⟩
  | zero s =>
    cases v with
    | infinity => exact .inr ⟨trivial, rfl, .inr rfl⟩
    | notANumber => exact .inr ⟨trivial, rfl, .inr rfl⟩
    | _ => exact .inl ⟨rfl, rfl⟩
  | finite s m e hm =>
    cases v with
    | infinity => exact .inr ⟨trivial, rfl, .inr rfl⟩
    | notANumber => exact .inr ⟨trivial, rfl, .inr rfl⟩
    | _ => exact .inl ⟨rfl, rfl⟩

theorem isNear_iff_units {p : Nat} (hp : p = 1022) :
    isNear x y = true ↔ x.isFinite = true ∧ y.isFinite = true ∧
      (units x.toModel.unpack - units y.toModel.unpack).natAbs + 2 ^ (p - 54) < 2 ^ p := by
  have hsub : isNear x y = true ↔ (Float.ofModel (.pack (UnpackedFloat.sub Format.binary64
      x.toModel.unpack y.toModel.unpack))).abs < tolerance := decide_eq_true_iff
  rw [hsub]
  rcases sub_cases x.toModel.unpack y.toModel.unpack with ⟨hx, hy⟩ | ⟨hformat, hinfinite, hnot⟩
  · have happroximates := approximates_sub (isFormat x) (isFormat y) hx hy
    rw [abs_lt_tolerance_iff happroximates.isFormat hp, ← Nat.not_le,
      happroximates.reaches p (by omega), Nat.not_le]
    exact (and_iff_right happroximates.isFinite).trans
      ((and_iff_right hy).symm.trans (and_iff_right hx).symm)
  · rw [abs_lt_tolerance_iff hformat hp, hinfinite]
    refine iff_of_false (fun h => by cases h.1) fun ⟨hx, hy, _⟩ => ?_
    rcases hnot with hnot | hnot
    · exact Bool.false_ne_true (hnot.symm.trans hx)
    · exact Bool.false_ne_true (hnot.symm.trans hy)

theorem abs_sub_mul (x y : Float) : |value x - value y| * 2 ^ 1074 =
    ((units x.toModel.unpack - units y.toModel.unpack).natAbs : ℚ) := by
  have hpos : (0 : ℚ) < 2 ^ 1074 := pow_pos two_pos _
  rw [Nat.cast_natAbs, Int.cast_abs, Int.cast_sub, ← value_eq, ← value_eq, ← sub_mul, abs_mul,
    abs_of_pos hpos]

/-- Two doubles are near if they are finite and differ by less than the tolerance, which is
`2 ^ (-52)`, by more than half a unit of the last place below it. -/
theorem isNear_iff :
    isNear x y = true ↔ x.isFinite = true ∧ y.isFinite = true ∧
      |value x - value y| < 2 ^ (-52 : Int) - 2 ^ (-106 : Int) := by
  obtain ⟨p, hp⟩ : ∃ p, p = 1022 := ⟨_, rfl⟩
  have hpos : (0 : ℚ) < 2 ^ 1074 := pow_pos two_pos _
  have hscale {i : Int} {j : Nat} (hj : (j : Int) = i + 1074) :
      (2 : ℚ) ^ i * 2 ^ 1074 = ((2 ^ j : Nat) : ℚ) := by
    rw [Nat.cast_pow, Nat.cast_ofNat, ← zpow_natCast, ← zpow_natCast, hj, zpow_add₀ two_ne_zero]
    rfl
  rw [isNear_iff_units hp, ← mul_lt_mul_iff_left₀ hpos, abs_sub_mul, sub_mul,
    @hscale (-52) p (by omega), @hscale (-106) (p - 54) (by omega), lt_sub_iff_add_lt,
    ← Nat.cast_add, Nat.cast_lt]

theorem isNear_comm (x y : Float) : isNear x y = isNear y x := by
  rw [Bool.eq_iff_iff, isNear_iff, isNear_iff, abs_sub_comm]
  exact and_left_comm

theorem isNear_of_value_eq (hx : x.isFinite = true) (hy : y.isFinite = true)
    (h : value x = value y) : isNear x y = true := by
  rw [isNear_iff, h, sub_self, abs_zero, sub_pos]
  exact ⟨hx, hy, zpow_lt_zpow_right₀ one_lt_two (by decide)⟩

/-! ## Nearness and order -/

/-- Two finite doubles that are not the same number and still near. -/
structure IsClose (x y : Float) : Prop where
  left : x.isFinite = true
  right : y.isFinite = true
  ne : value x ≠ value y
  lt : |value x - value y| < 2 ^ (-52 : Int) - 2 ^ (-106 : Int)

theorem isClose_iff : IsClose x y ↔ isNear x y = true ∧ order? x y ≠ some .eq := by
  constructor
  · intro h
    refine ⟨isNear_iff.mpr ⟨h.left, h.right, h.lt⟩, ?_⟩
    rw [order?_eq h.left h.right]
    exact fun heq => h.ne (compare_eq_iff_eq.mp (Option.some.inj heq))
  · rintro ⟨hnear, horder⟩
    obtain ⟨hx, hy, hlt⟩ := isNear_iff.mp hnear
    rw [order?_eq hx hy] at horder
    exact ⟨hx, hy, fun h => horder (congrArg some (compare_eq_iff_eq.mpr h)), hlt⟩

theorem not_isInf (h : x.isFinite = true) : ¬x.isInf = true := by
  change x.toModel.unpack.isFinite = true at h
  change ¬x.toModel.unpack.isInf = true
  generalize x.toModel.unpack = u at h
  cases u with
  | infinity => cases h
  | _ => exact Bool.false_ne_true

theorem finite_or_inf (h : x ≠ Float.nan) : x.isFinite = true ∨ x.isInf = true := by
  have hnan : x.isNaN = false := by rw [Float.isNaN_eq_decide_eq_nan, decide_eq_false h]
  change x.toModel.unpack.isNaN = false at hnan
  change x.toModel.unpack.isFinite = true ∨ x.toModel.unpack.isInf = true
  generalize x.toModel.unpack = u at hnan
  cases u with
  | notANumber => cases hnan
  | infinity => exact .inr rfl
  | _ => exact .inl rfl

/-- Equal doubles are finite or one and the same infinity. -/
theorem finite_or_inf_of_beq (hbeq : (x == y) = true) :
    x.isFinite = true ∧ y.isFinite = true ∨ x.isInf = true ∧ x = y := by
  obtain ⟨hnan, _, rfl | ⟨rfl, rfl⟩ | ⟨rfl, rfl⟩⟩ := Float.beq_iff_ne_nan_and_eq.mp hbeq
  · rcases finite_or_inf hnan with hx | hx
    · exact .inl ⟨hx, hx⟩
    · exact .inr ⟨hx, rfl⟩
  · exact .inl ⟨rfl, rfl⟩
  · exact .inl ⟨rfl, rfl⟩

/-- Nearness of doubles that have an order, unless they are one infinity. -/
theorem isNear_iff_of_order? {o : Ordering} (horder : order? x y = some o)
    (hinf : ¬(x.isInf = true ∧ x = y)) : isNear x y = true ↔ o = .eq ∨ IsClose x y := by
  constructor
  · intro hnear
    by_cases ho : o = .eq
    · exact .inl ho
    · have hne : order? x y ≠ some .eq := fun heq => ho (Option.some.inj (horder.symm.trans heq))
      exact .inr (isClose_iff.mpr ⟨hnear, hne⟩)
  · rintro (rfl | hclose)
    · have hbeq : (x == y) = true := beq_iff.mpr (order?_eq_compare x y ▸ horder)
      rcases finite_or_inf_of_beq hbeq with ⟨hx, hy⟩ | hsame
      · rw [order?_eq hx hy] at horder
        exact isNear_of_value_eq hx hy (compare_eq_iff_eq.mp (Option.some.inj horder))
      · exact absurd hsame hinf
    · exact (isClose_iff.mp hclose).1

/-- What is no number has no order. -/
theorem isNaN_eq_false_of_order? {o : Ordering} (horder : order? x y = some o) :
    x.isNaN = false := by
  rw [order?_eq_compare] at horder
  change x.toModel.unpack.isNaN = false
  generalize x.toModel.unpack = u at horder
  cases u with
  | notANumber => cases horder
  | _ => rfl

/-- Every double but the infinities is near itself or no number. -/
theorem isNaN_or_isNear_self (h : ¬x.isInf = true) : x.isNaN = true ∨ isNear x x = true := by
  by_cases hnan : x = Float.nan
  · rw [Float.isNaN_eq_decide_eq_nan, decide_eq_true hnan]
    exact .inl rfl
  · have hx := (finite_or_inf hnan).resolve_right h
    exact .inr (isNear_of_value_eq hx hx rfl)

/-! ## Integers -/

theorem units_lt {i : Int} {d : UnpackedFloat} (h : Approximates i d) {p : Nat}
    (hi : i.natAbs < 2 ^ p) : (units d).natAbs < 2 ^ (p + 54) := by
  have hlast : 2 ^ (p + 54 - 54) < 2 ^ (p + 53) := Nat.pow_lt_pow_right (by decide) (by omega)
  have hnext : 2 ^ p ≤ 2 ^ (p + 53) := Nat.pow_le_pow_right (by decide) (by omega)
  have hsum : 2 ^ (p + 54) = 2 ^ (p + 53) + 2 ^ (p + 53) := by ring
  rw [← Nat.not_le, h.reaches (p + 54) (by omega)]
  omega

/-- A number that is not too large is stored as it is rounded. -/
theorem unpack_pack_of_lt {i : Int} {d : UnpackedFloat} (h : Approximates i d) {p : Nat}
    (hi : i.natAbs < 2 ^ p) (hp : p ≤ 1900) : (Float.Model.pack d).unpack = d := by
  have hlt := units_lt h hi
  rw [unpack_pack h.isFormat]
  cases d with
  | finite sign m e hm =>
    refine if_pos (Int.not_lt.mp fun he => Nat.not_le.mpr hlt ?_)
    rw [units, natAbs_apply, Int.natAbs_natCast]
    calc 2 ^ (p + 54) ≤ 2 ^ (e + 1074).toNat := Nat.pow_le_pow_right (by decide) (by omega)
      _ ≤ m * 2 ^ (e + 1074).toNat := Nat.le_mul_of_pos_left _ hm
  | _ => rfl

theorem isFinite_pack {i : Int} {d : UnpackedFloat} (h : Approximates i d) {p : Nat}
    (hi : i.natAbs < 2 ^ p) (hp : p ≤ 1900) : (Float.ofModel (.pack d)).isFinite = true := by
  change (Float.Model.pack d).unpack.isFinite = true
  rw [unpack_pack_of_lt h hi hp]
  exact h.isFinite

/-- One has no effect as a factor, since every double is already rounded. -/
theorem approximates_mul_one {x : UnpackedFloat} (h : IsFormat x) (hfinite : x.isFinite = true)
    {p : Nat} (hp : 105 ≤ p) (hlow : 2 ^ p ≤ (units x).natAbs) :
    Approximates (units x) (UnpackedFloat.mul Format.binary64 x
      (.finite .positive (2 ^ 52) (-52) (by decide))) := by
  cases x with
  | infinity => cases hfinite
  | notANumber => cases hfinite
  | zero sign => exact approximates_zero
  | finite sign m e hm =>
    have hexp : -1022 ≤ e := by
      by_contra hless
      rw [units, natAbs_apply, Int.natAbs_natCast] at hlow
      have hlt : m * 2 ^ (e + 1074).toNat < 2 ^ p := by
        calc m * 2 ^ (e + 1074).toNat < 2 ^ 53 * 2 ^ (e + 1074).toNat :=
              Nat.mul_lt_mul_of_pos_right h.lt (Nat.two_pow_pos _)
          _ = 2 ^ (53 + (e + 1074).toNat) := (Nat.pow_add ..).symm
          _ ≤ 2 ^ p := Nat.pow_le_pow_right (by decide) (by omega)
      exact Nat.not_le.mpr hlt hlow
    have htarget := (drops_of_isRounded hm h).target
    have hshifted := @approximates_shifted m e sign 52 hm (by omega) (by omega)
    cases sign <;> exact hshifted

/-- A whole number in units. -/
theorem natAbs_natCast_mul_pow (n s : Nat) : ((n : Int) * 2 ^ s).natAbs = n * 2 ^ s := by
  rw [Int.natAbs_mul, Int.natAbs_pow]
  rfl

theorem mul_pow_lt {n : Nat} (hn : n ≤ 2 ^ 63) (s : Nat) : n * 2 ^ s < 2 ^ (s + 64) := by
  calc n * 2 ^ s < 2 ^ 64 * 2 ^ s := Nat.mul_lt_mul_of_pos_right (by omega) (Nat.two_pow_pos s)
    _ = 2 ^ (s + 64) := by ring

/-- A natural number below `2 ^ 53` is a word times one. -/
theorem isFinite_ofNat_of_lt {n : Nat} (hpos : 0 < n) (hn : n < 2 ^ 53) :
    (Float.ofNat n).isFinite = true := by
  have hproduct : Float.ofNat n = n.toUInt64.toFloat * Float.ofBits 0x3FF0000000000000 := by
    change Float.ofScientific n false 0 = _
    rw [Float.ofScientific, dif_pos ⟨hn, by decide⟩]
    rfl
  obtain ⟨s, hs⟩ : ∃ s, s = 1074 := ⟨_, rfl⟩
  have hexp : ((0 : Int) + 1074).toNat = s := by omega
  have hnormalize := @approximates_normalize 0 .positive n (by decide)
  rw [hexp] at hnormalize
  have hlt : ((n : Int) * 2 ^ s).natAbs < 2 ^ (s + 64) := by
    rw [natAbs_natCast_mul_pow]
    exact mul_pow_lt (by omega) s
  have hword : n.toUInt64.toNat = n := UInt64.toNat_ofNat_of_lt' (by rw [UInt64.size]; omega)
  have hunpack : n.toUInt64.toFloat.toModel.unpack =
      UnpackedFloat.normalize Format.binary64 n 0 .positive := by
    have hmodel : n.toUInt64.toFloat.toModel =
      .pack (UnpackedFloat.normalize Format.binary64 n.toUInt64.toNat 0 .positive) := rfl
    rw [hmodel, hword, unpack_pack_of_lt hnormalize hlt (by omega)]
  have hone : (Float.ofBits 0x3FF0000000000000).toModel.unpack =
    .finite .positive (2 ^ 52) (-52) (by decide) := rfl
  have hlow : 2 ^ s ≤ (units (UnpackedFloat.normalize Format.binary64 n 0 .positive)).natAbs := by
    rw [hnormalize.reaches s (by omega), natAbs_natCast_mul_pow]
    exact Nat.le_add_right_of_le (Nat.le_mul_of_pos_left _ hpos)
  have hmul := approximates_mul_one hnormalize.isFormat hnormalize.isFinite (by omega) hlow
  have hfinite := isFinite_pack hmul (units_lt hnormalize hlt) (by omega)
  rw [← hunpack, ← hone] at hfinite
  rw [hproduct]
  exact hfinite

/-- A greater one is rounded with as many bits more as it may need. -/
theorem isFinite_ofNat_of_le {n : Nat} (hlow : 2 ^ 53 ≤ n) (hn : n ≤ 2 ^ 63) :
    (Float.ofNat n).isFinite = true := by
  obtain ⟨s, hs⟩ : ∃ s, s = 1074 := ⟨_, rfl⟩
  have hexp : ((0 : Int) + 1074).toNat = s := by omega
  have hshifted := @approximates_shifted n 0 .positive 53 (by omega) (by decide) (by
    rw [targetExponent_eq, Float.Model.totalExponent]
    omega)
  rw [apply_magnitude, hexp, Sign.apply] at hshifted
  have hlt : ((n : Int) * 2 ^ s).natAbs < 2 ^ (s + 64) := by
    rw [natAbs_natCast_mul_pow]
    exact mul_pow_lt hn s
  have hmodel : Float.ofNat n = Float.ofModel (.pack (UnpackedFloat.roundWithAccuracy
      Format.binary64 .positive (n * 2 ^ 53) (-53) .exact)) := by
    change Float.ofScientific n false 0 = _
    rw [Float.ofScientific, dif_neg fun hboth => by omega]
    have hzero : ¬n = 0 := by omega
    have hlarge : ¬(0 : Int) > 2 ^ Format.binary64.exponentBits := by decide
    have hsmall : ¬(0 : Int) < -((2 ^ Format.binary64.exponentBits : Int) + n.log2) := by
      have hbits : (2 ^ Format.binary64.exponentBits : Int) = 2048 := rfl
      omega
    have hproduct : UnpackedFloat.ofScientific Format.binary64 n 0 =
        UnpackedFloat.roundWithAccuracy Format.binary64 .positive (n <<< 53 * 1) (-53) .exact := by
      rw [UnpackedFloat.ofScientific, dif_neg hzero, if_neg hlarge, if_neg hsmall,
        if_pos (Int.le_refl 0)]
      rfl
    rw [Nat.shiftLeft_eq, Nat.mul_one] at hproduct
    rw [← hproduct]
    rfl
  rw [hmodel]
  exact isFinite_pack hshifted hlt (by omega)

theorem isFinite_neg (hx : x.isFinite = true) : (-x).isFinite = true := by
  change x.toModel.unpack.isFinite = true at hx
  change (Float.Model.pack x.toModel.unpack.neg).unpack.isFinite = true
  have hformat : IsFormat x.toModel.unpack := isFormat x
  have hstored : stored x.toModel.unpack = x.toModel.unpack := (unpack_cases _).2
  cases hd : x.toModel.unpack with
  | infinity =>
    rw [hd] at hx
    cases hx
  | notANumber =>
    rw [hd] at hx
    cases hx
  | zero sign => cases sign <;> rfl
  | finite sign m e hm =>
    rw [hd] at hformat hstored
    have hneg := @unpack_pack (.finite (-sign) m e hm) hformat
    rw [UnpackedFloat.neg, hneg]
    rw [stored] at hstored ⊢
    split
    · rfl
    · rename_i he
      rw [if_neg he] at hstored
      cases hstored

theorem isFinite_ofNat {n : Nat} (hn : n ≤ 2 ^ 63) : (Float.ofNat n).isFinite = true := by
  rcases Nat.eq_zero_or_pos n with rfl | hpos
  · rfl
  rcases Nat.lt_or_ge n (2 ^ 53) with hlt | hge
  · exact isFinite_ofNat_of_lt hpos hlt
  · exact isFinite_ofNat_of_le hge hn

/-- The double nearest to a 64-bit integer is finite. -/
theorem isFinite_ofInt (i : Int64) : (Float.ofInt i.toInt).isFinite = true := by
  have hlow := i.le_toInt
  have hhigh := i.toInt_lt
  cases hi : i.toInt with
  | ofNat n =>
    have hn : (n : Int) = i.toInt := hi.symm
    exact isFinite_ofNat (by omega)
  | negSucc n =>
    have hn : -((n : Int) + 1) = i.toInt := (Int.negSucc_eq n).symm.trans hi.symm
    exact isFinite_neg (isFinite_ofNat (by omega))

end DocumentQuery.Double
