import Mathlib

/-!
# Doubles as whole numbers

Every finite double is a whole multiple of the smallest positive one,
`2 ^ (-1074)`. Counted in these units, the order of doubles is the order of the
integers.

* `Double.IsRounded`, `Double.IsFormat`: what the parts of a double are;
* `Double.units`: a finite double as a multiple of the smallest;
* `Double.unpack_pack`: what is left of a rounded number when it is stored;
* `Double.compare_eq`: the order of finite doubles.
-/

namespace DocumentQuery.Double

open Float.Model (UnpackedFloat Format)
open Float.Model.UnpackedFloat (Sign)

variable {m m₁ m₂ : Nat} {e e₁ e₂ : Int} {sign : Sign}

/-! ## The parts of a double -/

/-- A significand and an exponent after rounding: the significand has all its bits unless the
exponent is the least one. -/
structure IsRounded (m : Nat) (e : Int) : Prop where
  lt : m < 2 ^ 53
  le : -1074 ≤ e
  full : 2 ^ 52 ≤ m ∨ e = -1074

/-- Numbers as rounding leaves them. -/
def IsFormat : UnpackedFloat → Prop
  | .finite _ m e _ => IsRounded m e
  | _ => True

/-- What is left of a number when it is stored: one too large becomes infinite. -/
def stored : UnpackedFloat → UnpackedFloat
  | .finite sign m e hm => if e ≤ 971 then .finite sign m e hm else .infinity sign
  | x => x

/-- The count of units of the last place that a number has at the least exponent. -/
def magnitude (m : Nat) (e : Int) : Nat := m * 2 ^ (e + 1074).toNat

/-- A finite number as a multiple of the smallest positive double. -/
def units : UnpackedFloat → Int
  | .finite sign m e _ => sign.apply (magnitude m e)
  | _ => 0

theorem toNat_one_append (v : BitVec 52) : (1#1 ++ v).toNat = 2 ^ 52 + v.toNat := by
  rw [BitVec.toNat_append, ← Nat.shiftLeft_add_eq_or_of_lt v.isLt, Nat.shiftLeft_eq]
  rfl

/-- What is read from a stored double is rounded and not too large. -/
theorem unpack_cases (b : BitVec Format.binary64.numBits) :
    IsFormat (UnpackedFloat.unpack Format.binary64 b) ∧
      stored (UnpackedFloat.unpack Format.binary64 b) = UnpackedFloat.unpack Format.binary64 b := by
  have hm : (UnpackedFloat.unpackMantissa b).toNat < 2 ^ 52 := (UnpackedFloat.unpackMantissa b).isLt
  have he : (UnpackedFloat.unpackExponent b).toNat < 2 ^ 11 := (UnpackedFloat.unpackExponent b).isLt
  rw [UnpackedFloat.unpack]
  split
  · split <;> exact ⟨trivial, rfl⟩
  rename_i hinfinite
  split
  · rename_i hleast
    split
    · exact ⟨trivial, rfl⟩
    · have hexponent : ((UnpackedFloat.unpackExponent b).toNat : Int) -
          (Format.binary64.exponentBias + Format.binary64.mantissaBitsWithoutImplicit) + 1 =
            -1074 := by
        rw [hleast]
        rfl
      rw [hexponent]
      exact ⟨⟨by omega, by omega, .inr rfl⟩, rfl⟩
  · rename_i hnormal
    have hone := toNat_one_append (UnpackedFloat.unpackMantissa b)
    have hbias : ((Format.binary64.exponentBias : Nat) : Int) +
      (Format.binary64.mantissaBitsWithoutImplicit : Nat) = 1075 := rfl
    have hpositive : (UnpackedFloat.unpackExponent b).toNat ≠ 0 :=
      fun h => hnormal (BitVec.eq_of_toNat_eq h)
    have hfinite : (UnpackedFloat.unpackExponent b).toNat ≠ 2047 :=
      fun h => hinfinite (BitVec.eq_of_toNat_eq h)
    rw [hbias]
    exact ⟨⟨by omega, by omega, .inl (by omega)⟩, if_pos (by omega)⟩

/-- The bits of a number with a full significand, which are stored without the first. -/
theorem unpack_packComponents_full (hm : 0 < m) (hfull : 2 ^ 52 ≤ m) (hlt : m < 2 ^ 53)
    (hle : -1074 ≤ e) (hfits : e ≤ 971) :
    UnpackedFloat.unpack Format.binary64 (UnpackedFloat.packComponents Format.binary64 sign
      (BitVec.ofNat 11 (e + 1075).toNat) (BitVec.ofNat 52 m)) = .finite sign m e hm := by
  have hexponent : (BitVec.ofNat 11 (e + 1075).toNat).toNat = (e + 1075).toNat := by
    rw [BitVec.toNat_ofNat, Nat.mod_eq_of_lt (by omega)]
  have hinfinite : BitVec.ofNat 11 (e + 1075).toNat ≠ -1#11 := by
    intro h
    have h : (e + 1075).toNat = 2047 := by rw [← hexponent, h]; rfl
    omega
  have hnormal : BitVec.ofNat 11 (e + 1075).toNat ≠ 0#11 := by
    intro h
    have h : (e + 1075).toNat = 0 := by rw [← hexponent, h]; rfl
    omega
  have hmantissa : (1#1 ++ BitVec.ofNat 52 m).toNat = m := by
    rw [toNat_one_append, BitVec.toNat_ofNat]
    omega
  have hbias : ((Format.binary64.exponentBias : Nat) : Int) +
    (Format.binary64.mantissaBitsWithoutImplicit : Nat) = 1075 := rfl
  have he : ((e + 1075).toNat : Int) - 1075 = e := by omega
  rw [UnpackedFloat.unpack]
  simp only [UnpackedFloat.unpackMantissa_packComponents,
    UnpackedFloat.unpackExponent_packComponents, UnpackedFloat.unpackSign_packComponents,
    Sign.ofBitVec_toBitVec, if_neg hinfinite, if_neg hnormal, hmantissa, hexponent, hbias, he]

/-- The bits of a number with the least exponent and no full significand. -/
theorem unpack_packComponents_least (hm : 0 < m) (hlt : m < 2 ^ 52) :
    UnpackedFloat.unpack Format.binary64 (UnpackedFloat.packComponents Format.binary64 sign
      0#11 (BitVec.ofNat 52 m)) = .finite sign m (-1074) hm := by
  have hmantissa : (BitVec.ofNat 52 m).toNat = m := by
    rw [BitVec.toNat_ofNat, Nat.mod_eq_of_lt hlt]
  have hpositive : BitVec.ofNat 52 m ≠ 0#52 := by
    intro h
    have h : m = 0 := by rw [← hmantissa, h]; rfl
    omega
  have hexponent : ((0#11).toNat : Int) - ((Format.binary64.exponentBias : Nat) +
    (Format.binary64.mantissaBitsWithoutImplicit : Nat)) + 1 = -1074 := rfl
  have hinfinite : ¬(0#11 = -1#11) := by decide
  rw [UnpackedFloat.unpack]
  simp only [UnpackedFloat.unpackMantissa_packComponents,
    UnpackedFloat.unpackExponent_packComponents, UnpackedFloat.unpackSign_packComponents,
    Sign.ofBitVec_toBitVec, if_neg hinfinite, dif_neg hpositive, hmantissa, hexponent]
  rfl

theorem unpack_pack {x : UnpackedFloat} (h : IsFormat x) :
    (Float.Model.pack x).unpack = stored x := by
  cases x with
  | infinity sign => cases sign <;> rfl
  | notANumber => rfl
  | zero sign => cases sign <;> rfl
  | finite sign m e hm =>
    have hbiased : (e + Format.binary64.exponentBias +
        Format.binary64.mantissaBitsWithoutImplicit).toNat = (e + 1075).toNat := by
      change (e + 1023 + 52).toNat = _
      rw [Int.add_assoc]
      rfl
    change UnpackedFloat.unpack Format.binary64
      (UnpackedFloat.pack Format.binary64 (.finite sign m e hm)) = _
    rw [UnpackedFloat.pack, stored]
    simp only [hbiased]
    have hlow := h.le
    split
    · rename_i hlarge
      have hlarge : 2 ^ 11 ≤ (e + 1075).toNat + 1 := hlarge
      have hbig : ¬e ≤ 971 := by omega
      rw [if_neg hbig]
      cases sign <;> rfl
    rename_i hfits
    have hfits : ¬2 ^ 11 ≤ (e + 1075).toNat + 1 := hfits
    have hsmall : e ≤ 971 := by omega
    rw [if_pos hsmall]
    split
    · rename_i hlog
      have hlog : m.log2 + 1 = 53 := hlog
      have hfull : 2 ^ 52 ≤ m := (Nat.le_log2 (by omega)).mp (by omega)
      exact unpack_packComponents_full hm hfull h.lt h.le hsmall
    · rename_i hlog
      have hlog : ¬m.log2 + 1 = 53 := hlog
      have hshort : m.log2 < 53 := (Nat.log2_lt (by omega)).mpr h.lt
      have hlt : m < 2 ^ 52 := (Nat.log2_lt (by omega)).mp (by omega)
      rcases h.full with hfull | rfl
      · exact absurd hfull (by omega)
      · exact unpack_packComponents_least hm hlt

/-! ## The order -/

theorem magnitude_pos (hm : 0 < m) : 0 < magnitude m e := Nat.mul_pos hm (Nat.two_pow_pos _)

/-- Of two rounded numbers the one with the greater exponent is greater. -/
theorem magnitude_lt_of_lt (h₁ : IsRounded m₁ e₁) (h₂ : IsRounded m₂ e₂) (he : e₁ < e₂) :
    magnitude m₁ e₁ < magnitude m₂ e₂ := by
  have hlow := h₁.le
  have hfull : 2 ^ 52 ≤ m₂ := h₂.full.resolve_right (by omega)
  have hexp : (e₁ + 1074).toNat + 1 ≤ (e₂ + 1074).toNat := by omega
  calc m₁ * 2 ^ (e₁ + 1074).toNat
      < 2 ^ 53 * 2 ^ (e₁ + 1074).toNat := Nat.mul_lt_mul_of_pos_right h₁.lt (Nat.two_pow_pos _)
    _ = 2 ^ 52 * 2 ^ ((e₁ + 1074).toNat + 1) := by ring
    _ ≤ m₂ * 2 ^ (e₂ + 1074).toNat :=
        Nat.mul_le_mul hfull (Nat.pow_le_pow_right (by decide) hexp)

theorem compare_magnitude (h₁ : IsRounded m₁ e₁) (h₂ : IsRounded m₂ e₂) :
    (compare e₁ e₂).then (compare m₁ m₂) = compare (magnitude m₁ e₁) (magnitude m₂ e₂) := by
  rcases Int.lt_trichotomy e₁ e₂ with he | rfl | he
  · rw [Int.compare_eq_lt.mpr he, Nat.compare_eq_lt.mpr (magnitude_lt_of_lt h₁ h₂ he)]
    rfl
  · rw [Int.compare_eq_eq.mpr rfl, Nat.compare_eq_ite_lt, Nat.compare_eq_ite_lt]
    simp only [magnitude, Nat.mul_lt_mul_right (Nat.two_pow_pos _)]
    rfl
  · rw [Int.compare_eq_gt.mpr he, Nat.compare_eq_gt.mpr (magnitude_lt_of_lt h₂ h₁ he)]
    rfl

theorem compare_natCast (a b : Nat) : compare (a : Int) b = compare a b := by
  rw [Int.compare_eq_ite_lt, Nat.compare_eq_ite_lt]
  simp only [Int.ofNat_lt]

theorem compare_neg_natCast (a b : Nat) : compare (-(a : Int)) (-b) = (compare a b).swap := by
  rw [Nat.compare_swap, ← compare_natCast, Int.compare_eq_ite_lt, Int.compare_eq_ite_lt]
  simp only [Int.neg_lt_neg_iff]

/-- Finite doubles are in the order of their units. -/
theorem compare_eq {x y : UnpackedFloat} (hx : IsFormat x) (hy : IsFormat y)
    (hfx : x.isFinite = true) (hfy : y.isFinite = true) :
    x.compare y = some (compare (units x) (units y)) := by
  have hpos {n : Nat} {f : Int} (hn : 0 < n) : 0 < (magnitude n f : Int) :=
    Int.natCast_pos.mpr (magnitude_pos hn)
  cases x with
  | infinity => cases hfx
  | notANumber => cases hfx
  | zero s =>
    cases y with
    | infinity => cases hfy
    | notANumber => cases hfy
    | zero t => rfl
    | finite t n f hn =>
      cases t with
      | positive => exact congrArg some (Int.compare_eq_lt.mpr (hpos hn)).symm
      | negative => exact congrArg some (Int.compare_eq_gt.mpr (Int.neg_neg_of_pos (hpos hn))).symm
  | finite s m e hm =>
    cases y with
    | infinity => cases hfy
    | notANumber => cases hfy
    | zero t =>
      cases s with
      | positive => exact congrArg some (Int.compare_eq_gt.mpr (hpos hm)).symm
      | negative => exact congrArg some (Int.compare_eq_lt.mpr (Int.neg_neg_of_pos (hpos hm))).symm
    | finite t n f hn =>
      have hparts := compare_magnitude hx hy
      have hmpos := @hpos m e hm
      have hnpos := @hpos n f hn
      cases s with
      | positive =>
        cases t with
        | positive => exact congrArg some (hparts.trans (compare_natCast _ _).symm)
        | negative =>
          have hlt := Int.lt_trans (Int.neg_neg_of_pos hnpos) hmpos
          exact congrArg some (Int.compare_eq_gt.mpr hlt).symm
      | negative =>
        cases t with
        | positive =>
          have hlt := Int.lt_trans (Int.neg_neg_of_pos hmpos) hnpos
          exact congrArg some (Int.compare_eq_lt.mpr hlt).symm
        | negative =>
          have hswap := congrArg Ordering.swap hparts
          exact congrArg some (hswap.trans (compare_neg_natCast _ _).symm)

theorem compare_swap (x y : UnpackedFloat) : y.compare x = (x.compare y).map Ordering.swap := by
  cases x with
  | infinity s =>
    cases y with
    | infinity t => cases s <;> cases t <;> rfl
    | _ => cases s <;> rfl
  | notANumber => cases y <;> rfl
  | zero s =>
    cases y with
    | infinity t => cases t <;> rfl
    | finite t => cases t <;> rfl
    | _ => rfl
  | finite s m e hm =>
    cases y with
    | infinity t => cases t <;> rfl
    | notANumber => rfl
    | zero t => cases s <;> rfl
    | finite t n f hn =>
      cases s <;> cases t <;>
        simp [UnpackedFloat.compare, Ordering.swap_then, Int.compare_swap, Nat.compare_swap]

end DocumentQuery.Double
