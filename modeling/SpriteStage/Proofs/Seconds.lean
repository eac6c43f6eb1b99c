import SpriteStage.Proofs.Speech
import SpriteStage.Proofs.Sums

/-!
# Seconds

`Binary.ofFloat` reads from a double's bits what its unpacked form is (`ofFloat_eq_reading`). So
the nanoseconds of a finite double are a quotient of its units, rounded
(`Duration.nanos_ofSeconds?`), and more seconds are no shorter a time (`Duration.ofSeconds?_le`).
-/

namespace SpriteStage

open Float.Model (Format UnpackedFloat)

namespace Unpacked

open Float.Model.UnpackedFloat

/-- What a double with this unpacked form stands for. -/
def reading : UnpackedFloat → Binary
  | .notANumber => .nan
  | .infinity s => .infinite (s == .negative)
  | .zero s => .finite (s == .negative) 0 (-1074)
  | .finite s m e _ => .finite (s == .negative) m e

/-- The mantissa is in the low bits. -/
theorem toNat_unpackMantissa (b : BitVec Format.binary64.numBits) :
    (unpackMantissa b).toNat = b.toNat % Binary.leadingOne := by
  rw [unpackMantissa_def, BitVec.extractLsb'_toNat, Nat.shiftRight_zero]
  rfl

/-- The exponent is in the bits above them. -/
theorem toNat_unpackExponent (b : BitVec Format.binary64.numBits) :
    (unpackExponent b).toNat = b.toNat / Binary.leadingOne % 2048 := by
  rw [unpackExponent_def, BitVec.extractLsb'_toNat, Nat.shiftRight_eq_div_pow]
  rfl

/-- The sign is the highest bit. -/
theorem sign_eq (b : BitVec Format.binary64.numBits) :
    (Sign.ofBitVec (unpackSign b) == .negative) = decide (Binary.signBit ≤ b.toNat) := by
  have hlt : b.toNat < 2 ^ 64 := b.isLt
  have htoNat : (unpackSign b).toNat = b.toNat / 2 ^ 63 % 2 := by
    rw [unpackSign_def, BitVec.extractLsb'_toNat, Nat.shiftRight_eq_div_pow]
    rfl
  rw [Sign.ofBitVec]
  split
  · rename_i hzero
    have : b.toNat / 2 ^ 63 % 2 = 0 := by rw [← htoNat, hzero]; rfl
    rw [decide_eq_false (show ¬ Binary.signBit ≤ b.toNat by rw [Binary.signBit]; omega)]
    rfl
  · rename_i hone
    have : b.toNat / 2 ^ 63 % 2 ≠ 0 := by
      rw [← htoNat]
      exact fun h => hone (BitVec.eq_of_toNat_eq h)
    rw [decide_eq_true (show Binary.signBit ≤ b.toNat by rw [Binary.signBit]; omega)]
    rfl

/-- The reading of bits, field by field. -/
theorem reading_unpack (b : BitVec Format.binary64.numBits) :
    reading (unpack .binary64 b) =
      if b.toNat / Binary.leadingOne % 2048 = 2047 then
        if b.toNat % Binary.leadingOne = 0 then .infinite (decide (Binary.signBit ≤ b.toNat))
        else .nan
      else if b.toNat / Binary.leadingOne % 2048 = 0 then
        .finite (decide (Binary.signBit ≤ b.toNat)) (b.toNat % Binary.leadingOne) (-1074)
      else .finite (decide (Binary.signBit ≤ b.toNat))
        (Binary.leadingOne + b.toNat % Binary.leadingOne)
        ((b.toNat / Binary.leadingOne % 2048 : ℕ) - 1075) := by
  have hbias : ((Format.binary64.exponentBias : ℤ) + Format.binary64.mantissaBitsWithoutImplicit) =
      1075 := rfl
  have hspecial : @unpackExponent .binary64 b = -1#_ ↔
      b.toNat / Binary.leadingOne % 2048 = 2047 := by
    rw [← BitVec.toNat_inj, toNat_unpackExponent]
    rfl
  have hsubnormal : @unpackExponent .binary64 b = 0#_ ↔
      b.toNat / Binary.leadingOne % 2048 = 0 := by
    rw [← BitVec.toNat_inj, toNat_unpackExponent]
    rfl
  have hzero : @unpackMantissa .binary64 b = 0#_ ↔ b.toNat % Binary.leadingOne = 0 := by
    rw [← BitVec.toNat_inj, toNat_unpackMantissa]
    rfl
  unfold unpack
  simp only [hbias, hspecial, hsubnormal, hzero]
  split
  · split
    · rw [reading, sign_eq]
    · rfl
  · split
    · rename_i hexponent
      split
      · rename_i hmantissa
        rw [reading, sign_eq, hmantissa]
      · rw [reading, sign_eq, toNat_unpackMantissa, toNat_unpackExponent, hexponent]
        rfl
    · rw [reading, sign_eq, toNat_unpackExponent, toNat_one_append, toNat_unpackMantissa]
      rfl

end Unpacked

/-- **The bits of a double are read as its unpacked form.** -/
theorem ofFloat_eq_reading (x : Float) : Binary.ofFloat x = Unpacked.reading (unpacked x) :=
  (Unpacked.reading_unpack x.toModel.toBits.toBitVec).symm

/-! ## Quotients -/

namespace Duration

/-- A quotient is rounded up by the half that is left, if it is more than one or makes the quotient
even. -/
theorem divideToEven_eq (num den : ℕ) : divideToEven num den = num / den +
    if 2 * (num % den) < den then 0 else if 2 * (num % den) = den then num / den % 2 else 1 := by
  rw [divideToEven]
  rcases lt_trichotomy (2 * (num % den)) den with h | h | h
  · simp only [compare_lt_iff_lt.2 h, if_pos h, Nat.add_zero]
  · simp only [compare_eq_iff_eq.2 h, if_neg h.not_lt, if_pos h]
  · simp only [compare_gt_iff_gt.2 h, if_neg h.not_gt, if_neg h.ne']

/-- A quotient that is rounded is the same in other units. -/
theorem divideToEven_mul_right {c : ℕ} (hc : 0 < c) (num den : ℕ) :
    divideToEven (num * c) (den * c) = divideToEven num den := by
  simp only [divideToEven_eq, Nat.mul_div_mul_right _ _ hc, Nat.mul_mod_mul_right,
    ← Nat.mul_assoc, Nat.mul_lt_mul_right hc, Nat.mul_left_inj hc.ne']

/-- More is no less when it is divided and rounded. -/
theorem divideToEven_le {a b : ℕ} (h : a ≤ b) (den : ℕ) :
    divideToEven a den ≤ divideToEven b den := by
  rw [divideToEven_eq, divideToEven_eq]
  rcases (Nat.div_le_div_right (c := den) h).lt_or_eq with hlt | heq
  · split_ifs <;> omega
  · -- the same whole part, so the rests decide
    have hrest : a % den ≤ b % den := by
      have ha := Nat.div_add_mod a den
      have hb := Nat.div_add_mod b den
      rw [heq] at ha
      omega
    rw [heq]
    split_ifs <;> omega

/-! ## Times of seconds -/

/-- How many units of doubles are one. -/
def unitsOfOne : ℕ := 2 ^ 1074

/-- A mantissa at its place, in units of doubles. -/
theorem divideToEven_shifted (m k : ℕ) :
    divideToEven (m * second <<< ((k : ℤ) - 1074).toNat) (1 <<< (-((k : ℤ) - 1074)).toNat) =
      divideToEven (m * 2 ^ k * second) unitsOfOne := by
  have hup : ((k : ℤ) - 1074).toNat = k - 1074 := by omega
  have hdown : (-((k : ℤ) - 1074)).toNat = 1074 - k := by omega
  have hnum : m * (second * 2 ^ (k - 1074)) * 2 ^ min k 1074 = m * 2 ^ k * second := by
    have hk : 2 ^ k = 2 ^ (k - 1074) * 2 ^ min k 1074 := by
      rw [← pow_add, show k - 1074 + min k 1074 = k by omega]
    rw [hk]
    ring
  have hden : 2 ^ (1074 - k) * 2 ^ min k 1074 = unitsOfOne := by
    rw [unitsOfOne, ← pow_add, show 1074 - k + min k 1074 = 1074 by omega]
  rw [hup, hdown, Nat.shiftLeft_eq, Nat.shiftLeft_eq, one_mul,
    ← divideToEven_mul_right (Nat.two_pow_pos (min k 1074)), hnum, hden]

/-- A finite number that is not below zero, as it is read. -/
theorem exists_reading {x : Float} (hx : x.isFinite = true) (hpos : 0 ≤ units x) :
    ∃ (negative : Bool) (m k : ℕ), Binary.ofFloat x = .finite negative m (k - 1074) ∧
      (negative && m != 0) = false ∧ (units x).toNat = m * 2 ^ k := by
  have hcanonical := (isCanonical_unpacked hx).1
  rw [ofFloat_eq_reading]
  rw [units] at hpos ⊢
  generalize unpacked x = u at hcanonical hpos ⊢
  cases u with
  | infinity s => exact hcanonical.elim
  | notANumber => exact hcanonical.elim
  | zero s => exact ⟨_, 0, 0, rfl, Bool.and_false _, rfl⟩
  | finite s m e hm =>
    obtain ⟨-, he, -⟩ := hcanonical
    obtain ⟨k, rfl⟩ : ∃ k : ℕ, e = k - 1074 := ⟨(e + 1074).toNat, by omega⟩
    rw [Unpacked.units_finite, ← Unpacked.apply_mul_two_pow] at hpos ⊢
    cases s with
    | positive => exact ⟨false, m, k, rfl, rfl, rfl⟩
    | negative =>
      have : 0 < m * 2 ^ k := by positivity
      simp only [Float.Model.UnpackedFloat.Sign.apply] at hpos
      omega

/-- Nanoseconds that are too many stop at the greatest time. -/
theorem nanos_inRange (n : ℕ) :
    ((if h : n < limit then some (⟨n, h⟩ : Duration) else none).getD longest).nanos =
      min n (limit - 1) := by
  split
  · rename_i hlt
    exact (min_eq_left (Nat.le_sub_one_of_lt hlt)).symm
  · rename_i hlt
    exact (min_eq_right ((Nat.sub_le _ _).trans (not_lt.1 hlt))).symm

/-- The time of a finite number of seconds, in nanoseconds. -/
theorem nanos_ofSeconds? {x : Float} (hx : x.isFinite = true) (hpos : 0 ≤ units x) :
    ((ofSeconds? x).getD longest).nanos =
      min (divideToEven ((units x).toNat * second) unitsOfOne) (limit - 1) := by
  obtain ⟨negative, m, k, hread, hsign, hunits⟩ := exists_reading hx hpos
  simp only [ofSeconds?, hread, hsign, divideToEven_shifted, ← hunits]
  rw [if_neg Bool.false_ne_true, nanos_inRange]

/-- What is past all finite numbers has no time of its own. -/
theorem ofSeconds?_of_not_isFinite {x : Float} (hx : x.isFinite = false) : ofSeconds? x = none := by
  have hfinite : (unpacked x).isFinite = false := hx
  rw [ofSeconds?, ofFloat_eq_reading]
  generalize unpacked x = u at hfinite
  cases u with
  | infinity s => rfl
  | notANumber => rfl
  | zero s => cases hfinite
  | finite s m e hm => cases hfinite

/-- **More seconds are no shorter a time.** -/
theorem ofSeconds?_le {x y : Float} (hx : x.isFinite = true) (hpos : 0.0 ≤ x) (h : x ≤ y) :
    (ofSeconds? x).getD longest ≤ (ofSeconds? y).getD longest := by
  rw [le_iff]
  cases hy : y.isFinite with
  | true =>
    have hzero : 0 ≤ units x := (le_iff_units (by rfl) hx).1 hpos
    have hunits : units x ≤ units y := (le_iff_units hx hy).1 h
    rw [nanos_ofSeconds? hx hzero, nanos_ofSeconds? hy (hzero.trans hunits)]
    refine min_le_min_right _ (divideToEven_le ?_ _)
    exact Nat.mul_le_mul_right _ (Int.toNat_le_toNat hunits)
  | false =>
    rw [ofSeconds?_of_not_isFinite hy]
    exact Nat.le_sub_one_of_lt ((ofSeconds? x).getD longest).inRange

end Duration

end SpriteStage
