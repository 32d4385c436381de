import DocumentQuery.Proofs.Double.Format

/-!
# Rounding to a double

Rounding keeps the order only roughly, but at a power of two it can be said
exactly which numbers become smaller than it: those more than half a unit of the
last place below it, since of two equally near doubles the even one is taken.

* `Double.nearest`, `Double.le_nearest_iff`: division by a power of two, to the nearest number;
* `Double.roundWithAccuracy_eq`: what a number is rounded to;
* `Double.Approximates`: that a double reaches the same powers of two as a number;
* `Double.approximates_sub`: the difference of two doubles.
-/

namespace DocumentQuery.Double

open Float.Model (UnpackedFloat Format)
open Float.Model.UnpackedFloat (Sign ExtendedMantissa)

variable {m k n : Nat} {e : Int} {sign : Sign}

/-! ## Division by a power of two -/

/-- A number divided by `2 ^ k` and rounded to the nearest, to the even one of two. -/
def nearest (m k : Nat) : Nat :=
  if 2 * (m % 2 ^ k) < 2 ^ k then m / 2 ^ k
  else if 2 * (m % 2 ^ k) = 2 ^ k then m / 2 ^ k + m / 2 ^ k % 2
  else m / 2 ^ k + 1

/-- A number shifted by `k` bits. Of what was shifted out, one bit says whether it is at least a
half, and the other whether it is neither nothing nor a half. -/
structure IsShifted (m k : Nat) (shifted : ExtendedMantissa) : Prop where
  mantissa : shifted.mantissa = m / 2 ^ k
  roundBit : shifted.roundBit = true ↔ 2 ^ k ≤ 2 * (m % 2 ^ k)
  stickyBit : shifted.stickyBit = true ↔ m % 2 ^ k ≠ 0 ∧ 2 * (m % 2 ^ k) ≠ 2 ^ k

theorem IsShifted.shiftRightOne {shifted : ExtendedMantissa} (h : IsShifted m k shifted) :
    IsShifted m (k + 1) shifted.shiftRightOne := by
  have hpow : 2 ^ (k + 1) = 2 ^ k * 2 := Nat.pow_succ 2 k
  have hrest : m % 2 ^ (k + 1) = m % 2 ^ k + 2 ^ k * (m / 2 ^ k % 2) := by
    rw [hpow, Nat.mod_mul]
  have hlt : m % 2 ^ k < 2 ^ k := Nat.mod_lt _ (Nat.two_pow_pos k)
  refine ⟨?_, ?_, ?_⟩
  · rw [ExtendedMantissa.shiftRightOne, h.mantissa, Nat.div_div_eq_div_mul, hpow]
  · rw [ExtendedMantissa.shiftRightOne, h.mantissa, bne_iff_ne, hrest, hpow]
    rcases Nat.mod_two_eq_zero_or_one (m / 2 ^ k) with hbit | hbit <;> rw [hbit] <;> omega
  · rw [ExtendedMantissa.shiftRightOne, Bool.or_eq_true, h.roundBit, h.stickyBit, hrest, hpow]
    rcases Nat.mod_two_eq_zero_or_one (m / 2 ^ k) with hbit | hbit <;> rw [hbit] <;> omega

theorem isShifted_shiftRight (m k : Nat) :
    IsShifted m k (ExtendedMantissa.ofMantissaAndAccuracy m .exact >>> k) := by
  induction k with
  | zero =>
    refine ⟨?_, ?_, ?_⟩
    · exact (Nat.div_one m).symm
    · rw [Nat.pow_zero, Nat.mod_one]
      exact iff_of_false Bool.false_ne_true (by omega)
    · rw [Nat.pow_zero, Nat.mod_one]
      exact iff_of_false Bool.false_ne_true (fun h => h.1 rfl)
  | succ k ih => exact ih.shiftRightOne

theorem IsShifted.roundedMantissa {shifted : ExtendedMantissa} (h : IsShifted m k shifted) :
    shifted.roundedMantissa = nearest m k := by
  obtain ⟨mantissa, roundBit, stickyBit⟩ := shifted
  obtain ⟨rfl, hround, hsticky⟩ := h
  rw [nearest]
  cases roundBit with
  | false =>
    have hlt : 2 * (m % 2 ^ k) < 2 ^ k := by
      have hnot : ¬2 ^ k ≤ 2 * (m % 2 ^ k) := fun hle => by cases hround.mpr hle
      omega
    rw [if_pos hlt]
    cases stickyBit <;> rfl
  | true =>
    have hle := hround.mp rfl
    rw [if_neg (Nat.not_lt.mpr hle)]
    cases stickyBit with
    | false =>
      have hhalf : 2 * (m % 2 ^ k) = 2 ^ k := by
        by_contra hne
        have hzero : m % 2 ^ k ≠ 0 := by
          have := Nat.two_pow_pos k
          omega
        cases hsticky.mpr ⟨hzero, hne⟩
      rw [if_pos hhalf]
      rfl
    | true =>
      rw [if_neg (hsticky.mp rfl).2]
      rfl

theorem le_nearest (m k : Nat) : m / 2 ^ k ≤ nearest m k := by
  unfold nearest
  split
  · exact Nat.le_refl _
  split <;> omega

theorem nearest_le (m k : Nat) : nearest m k ≤ m / 2 ^ k + 1 := by
  unfold nearest
  split
  · exact Nat.le_succ _
  split <;> omega

theorem mul_le_add_iff {a b c p s : Nat} (hlow : c * p ≤ s) (hhigh : s < (c + 1) * p) :
    a * p ≤ b * p + s ↔ a ≤ b + c := by
  constructor
  · intro h
    by_contra hlt
    have hmul : (b + c + 1) * p ≤ a * p := Nat.mul_le_mul_right p (by omega)
    have hsplit : (b + c + 1) * p = b * p + (c + 1) * p := by ring
    omega
  · intro h
    have hmul : a * p ≤ (b + c) * p := Nat.mul_le_mul_right p h
    have hsplit : (b + c) * p = b * p + c * p := by ring
    omega

/-- The nearest number is an even one or more exactly from half a unit below it. -/
theorem le_nearest_iff (hn : n % 2 = 0) : n ≤ nearest m k ↔ 2 * n * 2 ^ k ≤ 2 * m + 2 ^ k := by
  have hpos := Nat.two_pow_pos k
  have hlt : m % 2 ^ k < 2 ^ k := Nat.mod_lt _ hpos
  have hm : 2 * m + 2 ^ k = 2 * (m / 2 ^ k) * 2 ^ k + (2 * (m % 2 ^ k) + 2 ^ k) := by
    have hdiv := Nat.div_add_mod m (2 ^ k)
    have hcomm : 2 * (m / 2 ^ k) * 2 ^ k = 2 * (2 ^ k * (m / 2 ^ k)) := by ring
    omega
  rw [hm, nearest]
  split
  · rw [mul_le_add_iff (c := 1) (by omega) (by omega)]
    omega
  split
  · rw [mul_le_add_iff (c := 2) (by omega) (by omega)]
    omega
  · rw [mul_le_add_iff (c := 2) (by omega) (by omega)]
    omega

/-! ## Rounding -/

theorem targetExponent_eq (n : Int) :
    Format.binary64.targetExponent n = max (n - 53) (-1074) := rfl

/-- The exponent that rounding gives a number, and the bits it drops for that. -/
structure Drops (m : Nat) (e : Int) (k : Nat) : Prop where
  target : Format.binary64.targetExponent (Float.Model.totalExponent m e) = e + k
  lt : m < 2 ^ 53 * 2 ^ k
  full : 2 ^ 52 * 2 ^ k ≤ m ∨ e = -1074 ∧ k = 0

theorem drops_of_le (hm : 0 < m) (he : -1074 ≤ e)
    (ht : e ≤ Format.binary64.targetExponent (Float.Model.totalExponent m e)) :
    ∃ k, Drops m e k := by
  have hlow : 2 ^ m.log2 ≤ m := Nat.log2_self_le (by omega)
  have hhigh : m < 2 ^ (m.log2 + 1) := Nat.lt_log2_self
  refine ⟨(Format.binary64.targetExponent (Float.Model.totalExponent m e) - e).toNat, ?_, ?_, ?_⟩
  · omega
  · rw [targetExponent_eq, Float.Model.totalExponent] at ht ⊢
    rw [← Nat.pow_add]
    exact Nat.lt_of_lt_of_le hhigh (Nat.pow_le_pow_right (by decide) (by omega))
  · rw [targetExponent_eq, Float.Model.totalExponent] at ht ⊢
    rw [← Nat.pow_add]
    by_cases hleast : (m.log2 + 1 : Int) + e - 53 ≤ -1074
    · exact .inr ⟨by omega, by omega⟩
    · left
      exact Nat.le_trans (Nat.pow_le_pow_right (by decide) (by omega)) hlow

/-- A significand that needs no rounding is only shifted, by one bit if it has one too many. -/
theorem shiftToTargetExponent_rounded {f : Int} (hn : 0 < n) (hle : n ≤ 2 ^ 53) (hf : -1074 ≤ f) :
    UnpackedFloat.shiftToTargetExponent Format.binary64 n f .exact =
      if n = 2 ^ 53 then (⟨2 ^ 52, false, false⟩, f + 1) else (⟨n, false, false⟩, f) := by
  rw [UnpackedFloat.shiftToTargetExponent, UnpackedFloat.shiftToExponent, targetExponent_eq,
    Float.Model.totalExponent]
  split
  · rename_i hfull
    have hshift : (max ((((2 ^ 53 : Nat).log2 : Int) + 1 + f) - 53) (-1074) - f).toNat = 1 := by
      rw [Nat.log2_two_pow]
      omega
    subst hfull
    simp only [hshift]
    rfl
  · have hlog : n.log2 < 53 := (Nat.log2_lt (by omega)).mpr (by omega)
    have hshift : (max (((n.log2 : Int) + 1 + f) - 53) (-1074) - f).toNat = 0 := by omega
    simp only [hshift]
    exact Prod.ext rfl (Int.add_zero f)

theorem Drops.le_nearest_of_full {k : Nat} (h : Drops m e k) :
    2 ^ 52 ≤ nearest m k ∨ e = -1074 ∧ k = 0 := by
  refine h.full.imp_left fun hfull => ?_
  exact Nat.le_trans ((Nat.le_div_iff_mul_le (Nat.two_pow_pos k)).mpr hfull) (le_nearest m k)

theorem Drops.nearest_le_of_lt {k : Nat} (h : Drops m e k) : nearest m k ≤ 2 ^ 53 := by
  have hlt : m / 2 ^ k < 2 ^ 53 := (Nat.div_lt_iff_lt_mul (Nat.two_pow_pos k)).mpr h.lt
  have hle := nearest_le m k
  omega

theorem Drops.nearest_pos {k : Nat} (h : Drops m e k) (hm : 0 < m) : 0 < nearest m k := by
  rcases h.le_nearest_of_full with hfull | ⟨_, rfl⟩
  · omega
  · have hle := le_nearest m 0
    rw [Nat.pow_zero, Nat.div_one] at hle
    omega

/-- What a number is rounded to: the bits dropped are rounded, and one too many is carried. -/
theorem roundWithAccuracy_eq {k : Nat} (h : Drops m e k) (hm : 0 < m) (he : -1074 ≤ e) :
    ∃ n f hn,
      UnpackedFloat.roundWithAccuracy Format.binary64 sign m e .exact = .finite sign n f hn ∧
        IsRounded n f ∧ magnitude n f = magnitude (nearest m k) (e + k) := by
  have hpos := h.nearest_pos hm
  have hle := h.nearest_le_of_lt
  have hfirst : UnpackedFloat.shiftToTargetExponent Format.binary64 m e .exact =
      (UnpackedFloat.ExtendedMantissa.ofMantissaAndAccuracy m .exact >>> k, e + k) := by
    have hshift : (e + k - e).toNat = k := by omega
    rw [UnpackedFloat.shiftToTargetExponent, UnpackedFloat.shiftToExponent, h.target]
    simp only [hshift]
  have hsecond := @shiftToTargetExponent_rounded (nearest m k) (e + k) hpos hle (by omega)
  simp only [UnpackedFloat.roundWithAccuracy, hfirst, (isShifted_shiftRight m k).roundedMantissa,
    hsecond]
  by_cases hcarry : nearest m k = 2 ^ 53
  · simp only [if_pos hcarry]
    refine ⟨2 ^ 52, e + k + 1, by decide, dif_neg (by decide),
      ⟨by decide, by omega, .inl le_rfl⟩, ?_⟩
    have hexp : (e + k + 1 + 1074).toNat = (e + k + 1074).toNat + 1 := by omega
    rw [magnitude, magnitude, hcarry, hexp]
    ring
  · simp only [if_neg hcarry]
    refine ⟨nearest m k, e + k, hpos, dif_neg (by omega), ⟨by omega, by omega, ?_⟩, rfl⟩
    rcases h.le_nearest_of_full with hfull | ⟨rfl, rfl⟩
    · exact .inl hfull
    · exact .inr rfl

/-- A rounded number reaches a power of two if the number was no more than half a unit of the
last place below it. -/
theorem Drops.le_magnitude_iff {k p : Nat} (h : Drops m e k) (he : -1074 ≤ e) (hp : 54 ≤ p) :
    2 ^ p ≤ magnitude (nearest m k) (e + k) ↔ 2 ^ p ≤ magnitude m e + 2 ^ (p - 54) := by
  obtain ⟨s, hs⟩ : ∃ s : Nat, (e + 1074).toNat = s := ⟨_, rfl⟩
  have hexp : (e + k + 1074).toNat = s + k := by omega
  rw [magnitude, magnitude, hexp, hs]
  have hlt : m * 2 ^ s < 2 ^ (53 + (s + k)) := by
    calc m * 2 ^ s < 2 ^ 53 * 2 ^ k * 2 ^ s := Nat.mul_lt_mul_of_pos_right h.lt (Nat.two_pow_pos s)
      _ = 2 ^ (53 + (s + k)) := by ring
  rcases Nat.lt_trichotomy p (53 + (s + k)) with hless | heq | hmore
  -- Both reach a power of two that has no more bits than they have.
  · have hfull := h.full.resolve_right fun hleast => by omega
    have hnearest := h.le_nearest_of_full.resolve_right fun hleast => by omega
    have hpow : 2 ^ p ≤ 2 ^ (52 + (s + k)) := Nat.pow_le_pow_right (by decide) (by omega)
    refine iff_of_true ?_ (Nat.le_add_right_of_le ?_)
    · calc 2 ^ p ≤ 2 ^ (52 + (s + k)) := hpow
        _ = 2 ^ 52 * 2 ^ (s + k) := Nat.pow_add ..
        _ ≤ nearest m k * 2 ^ (s + k) := Nat.mul_le_mul_right _ hnearest
    · calc 2 ^ p ≤ 2 ^ (52 + (s + k)) := hpow
        _ = 2 ^ 52 * 2 ^ k * 2 ^ s := by ring
        _ ≤ m * 2 ^ s := Nat.mul_le_mul_right _ hfull
  -- The next power of two is reached if all bits are carried.
  · subst heq
    obtain ⟨d, hd⟩ : ∃ d, s + k = d + 1 := ⟨s + k - 1, by omega⟩
    have hcarry := @le_nearest_iff m k (2 ^ 53) (by decide)
    have hleft : 2 ^ (53 + (s + k)) ≤ nearest m k * 2 ^ (s + k) ↔ 2 ^ 53 ≤ nearest m k := by
      rw [Nat.pow_add, Nat.mul_le_mul_right_iff (Nat.two_pow_pos _)]
    have hright : 2 * 2 ^ 53 * 2 ^ k ≤ 2 * m + 2 ^ k ↔
        2 * 2 ^ 53 * 2 ^ k * 2 ^ s ≤ (2 * m + 2 ^ k) * 2 ^ s := by
      rw [Nat.mul_le_mul_right_iff (Nat.two_pow_pos _)]
    have hbits : 2 ^ k * 2 ^ s = 2 * 2 ^ d := by
      rw [← Nat.pow_add, Nat.add_comm, hd]
      ring
    have htop : 2 * 2 ^ 53 * 2 ^ k * 2 ^ s = 2 * 2 ^ (53 + (s + k)) := by ring
    have hsum : (2 * m + 2 ^ k) * 2 ^ s = 2 * (m * 2 ^ s) + 2 * 2 ^ d := by
      rw [← hbits]
      ring
    have hlast : 53 + (s + k) - 54 = d := by omega
    rw [hleft, hcarry, hright, htop, hsum, hlast]
    omega
  -- Neither reaches any other.
  · obtain ⟨q, rfl⟩ : ∃ q, p = q + 1 := ⟨p - 1, by omega⟩
    have hpow : 2 ^ (53 + (s + k)) ≤ 2 ^ q := Nat.pow_le_pow_right (by decide) (by omega)
    have hlast : 2 ^ (q + 1 - 54) ≤ 2 ^ q := Nat.pow_le_pow_right (by decide) (by omega)
    have hdouble : 2 ^ (q + 1) = 2 ^ q + 2 ^ q := by ring
    have hnearest : nearest m k * 2 ^ (s + k) ≤ 2 ^ q := by
      calc nearest m k * 2 ^ (s + k) ≤ 2 ^ 53 * 2 ^ (s + k) :=
            Nat.mul_le_mul_right _ h.nearest_le_of_lt
        _ = 2 ^ (53 + (s + k)) := (Nat.pow_add ..).symm
        _ ≤ 2 ^ q := hpow
    have hpos := Nat.two_pow_pos q
    exact iff_of_false (by omega) (by omega)

/-- A finite double that a whole number of units is rounded to. Which powers of two it reaches
is all that is said of its size. -/
structure Approximates (i : Int) (x : UnpackedFloat) : Prop where
  isFormat : IsFormat x
  isFinite : x.isFinite = true
  reaches : ∀ p, 54 ≤ p → (2 ^ p ≤ (units x).natAbs ↔ 2 ^ p ≤ i.natAbs + 2 ^ (p - 54))

theorem natAbs_apply (sign : Sign) (i : Int) : (sign.apply i).natAbs = i.natAbs := by
  cases sign with
  | negative => exact Int.natAbs_neg i
  | positive => rfl

theorem approximates_zero : Approximates 0 (.zero sign) := by
  refine ⟨trivial, rfl, fun p hp => ?_⟩
  have hlt : 2 ^ (p - 54) < 2 ^ p := Nat.pow_lt_pow_right (by decide) (by omega)
  exact iff_of_false (Nat.not_le.mpr (Nat.two_pow_pos p)) (by rw [Int.natAbs_zero]; omega)

theorem Drops.approximates (h : Drops m e k) (hm : 0 < m) (he : -1074 ≤ e) :
    Approximates (sign.apply (magnitude m e))
      (UnpackedFloat.roundWithAccuracy Format.binary64 sign m e .exact) := by
  obtain ⟨n, f, hn, hround, hrounded, hmagnitude⟩ := @roundWithAccuracy_eq m e sign k h hm he
  rw [hround]
  refine ⟨hrounded, rfl, fun p hp => ?_⟩
  rw [units, natAbs_apply, natAbs_apply, Int.natAbs_natCast, Int.natAbs_natCast, hmagnitude]
  exact h.le_magnitude_iff he hp

theorem log2_mul_two_pow (hm : 0 < m) (k : Nat) : (m * 2 ^ k).log2 = m.log2 + k := by
  induction k with
  | zero => rw [Nat.pow_zero, Nat.mul_one, Nat.add_zero]
  | succ k ih =>
    have hdouble : m * 2 ^ (k + 1) = 2 * (m * 2 ^ k) := by ring
    have hpos : 0 < m * 2 ^ k := Nat.mul_pos hm (Nat.two_pow_pos k)
    rw [hdouble, Nat.log2_two_mul (by omega), ih, Nat.add_assoc]

theorem totalExponent_shift (hm : 0 < m) (s : Nat) :
    Float.Model.totalExponent (m * 2 ^ s) (e - s) = Float.Model.totalExponent m e := by
  rw [Float.Model.totalExponent, Float.Model.totalExponent, log2_mul_two_pow hm]
  omega

theorem magnitude_shift {s : Nat} (hlow : -1074 ≤ e - s) :
    magnitude (m * 2 ^ s) (e - s) = magnitude m e := by
  have hexp : (e + 1074).toNat = s + (e - s + 1074).toNat := by omega
  rw [magnitude, magnitude, hexp, Nat.pow_add, Nat.mul_assoc]

/-- A significand with as many bits more as rounding may need. -/
theorem approximates_shifted {s : Nat} (hm : 0 < m) (hlow : -1074 ≤ e - s)
    (hle : e - s ≤ Format.binary64.targetExponent (Float.Model.totalExponent m e)) :
    Approximates (sign.apply (magnitude m e))
      (UnpackedFloat.roundWithAccuracy Format.binary64 sign (m * 2 ^ s) (e - s) .exact) := by
  have hpos : 0 < m * 2 ^ s := Nat.mul_pos hm (Nat.two_pow_pos s)
  rw [← totalExponent_shift hm s] at hle
  obtain ⟨k, hdrops⟩ := drops_of_le hpos hlow hle
  rw [← magnitude_shift hlow]
  exact hdrops.approximates hpos hlow

theorem approximates_round (hm : 0 < m) (he : -1074 ≤ e) :
    Approximates (sign.apply (magnitude m e)) (UnpackedFloat.round Format.binary64 sign m e) := by
  obtain ⟨s, hs⟩ : ∃ s : Nat,
      (e - Format.binary64.targetExponent (Float.Model.totalExponent m e)).toNat = s := ⟨_, rfl⟩
  have hlow : -1074 ≤ e - s := by
    rw [targetExponent_eq] at hs
    omega
  rw [UnpackedFloat.round]
  simp only [UnpackedFloat.decreaseExponent, hs, Nat.shiftLeft_eq]
  exact approximates_shifted hm hlow (by omega)

theorem apply_magnitude (sign : Sign) (m : Nat) (e : Int) :
    sign.apply (magnitude m e) = sign.apply m * 2 ^ (e + 1074).toNat := by
  cases sign <;> simp [Sign.apply, magnitude]

theorem approximates_normalize {i : Int} (he : -1074 ≤ e) :
    Approximates (i * 2 ^ (e + 1074).toNat) (UnpackedFloat.normalize Format.binary64 i e sign) := by
  rw [UnpackedFloat.normalize]
  split
  · rename_i hlt
    have hlt := Int.compare_eq_lt.mp hlt
    have hi : Sign.negative.apply (-i).toNat = i := by
      rw [Sign.apply, Int.toNat_of_nonneg (by omega), Int.neg_neg]
    have hround := @approximates_round (-i).toNat e .negative (by omega) he
    rwa [apply_magnitude, hi] at hround
  · rename_i heq
    rw [Int.compare_eq_eq.mp heq, Int.zero_mul]
    exact approximates_zero
  · rename_i hgt
    have hgt := Int.compare_eq_gt.mp hgt
    have hi : Sign.positive.apply i.toNat = i := Int.toNat_of_nonneg (by omega)
    have hround := @approximates_round i.toNat e .positive (by omega) he
    rwa [apply_magnitude, hi] at hround

/-! ## Differences -/

theorem drops_of_isRounded (hm : 0 < m) (h : IsRounded m e) : Drops m e 0 := by
  have hlog : m.log2 < 53 := (Nat.log2_lt (by omega)).mpr h.lt
  refine ⟨?_, by simpa using h.lt, by simpa using h.full⟩
  rw [targetExponent_eq, Float.Model.totalExponent]
  have hlow := h.le
  rcases h.full with hfull | rfl
  · have hge : 52 ≤ m.log2 := (Nat.le_log2 (by omega)).mpr hfull
    omega
  · omega

theorem nearest_zero (m : Nat) : nearest m 0 = m := by
  rw [nearest, Nat.pow_zero, Nat.mod_one, if_pos (by decide), Nat.div_one]

/-- A double is what it is itself rounded to. -/
theorem approximates_self {x : UnpackedFloat} (h : IsFormat x) (hfinite : x.isFinite = true) :
    Approximates (units x) x := by
  cases x with
  | infinity => cases hfinite
  | notANumber => cases hfinite
  | zero sign => exact approximates_zero
  | finite sign m e hm =>
    refine ⟨h, rfl, fun p hp => ?_⟩
    have hiff := (drops_of_isRounded hm h).le_magnitude_iff h.le hp
    rw [nearest_zero, Int.natCast_zero, Int.add_zero] at hiff
    rw [units, natAbs_apply, Int.natAbs_natCast]
    exact hiff

/-- A significand moved to a smaller exponent. -/
theorem apply_decreaseExponent {low : Int} (hlow : -1074 ≤ low) (hle : low ≤ e) :
    sign.apply (m <<< (e - low).toNat : Nat) * 2 ^ (low + 1074).toNat =
      sign.apply (magnitude m e) := by
  have hexp : (e + 1074).toNat = (e - low).toNat + (low + 1074).toNat := by omega
  rw [apply_magnitude, hexp, Nat.shiftLeft_eq, Int.pow_add]
  cases sign <;> simp [Sign.apply, Int.mul_assoc]

theorem approximates_sub {x y : UnpackedFloat} (hx : IsFormat x) (hy : IsFormat y)
    (hfx : x.isFinite = true) (hfy : y.isFinite = true) :
    Approximates (units x - units y) (UnpackedFloat.sub Format.binary64 x y) := by
  cases x with
  | infinity => cases hfx
  | notANumber => cases hfx
  | zero s =>
    cases y with
    | infinity => cases hfy
    | notANumber => cases hfy
    | zero t => cases s <;> cases t <;> exact approximates_zero
    | finite t n f hn =>
      have hself := @approximates_self (.finite (-t) n f hn) hy rfl
      have hneg : units (.finite (-t) n f hn) = 0 - units (.finite t n f hn) := by
        cases t
        · exact (Int.neg_neg _).symm.trans (Int.zero_sub _).symm
        · exact (Int.zero_sub _).symm
      rwa [hneg] at hself
  | finite s m e hm =>
    cases y with
    | infinity => cases hfy
    | notANumber => cases hfy
    | zero t =>
      have hself := approximates_self hx hfx
      rwa [← Int.sub_zero (units _)] at hself
    | finite t n f hn =>
      have hlow : -1074 ≤ min e f := le_min hx.le hy.le
      have hnormalize := @approximates_normalize (min e f) .positive
        (s.apply (m <<< (e - min e f).toNat : Nat) - t.apply (n <<< (f - min e f).toNat : Nat)) hlow
      rwa [Int.sub_mul, apply_decreaseExponent hlow (min_le_left e f),
        apply_decreaseExponent hlow (min_le_right e f)] at hnormalize

end DocumentQuery.Double
