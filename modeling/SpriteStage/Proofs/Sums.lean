import SpriteStage.Proofs.Order

/-!
# Sums of doubles

A finite double is a multiple of `2 ^ -1074`, and it is compared by that multiple, `units`
(`le_iff_units`). A sum is rounded, and how far is not needed here: a rounding passes over no
double, so a sum is on the same side of each finite double as the exact sum (`add_le_of_units`,
`le_add_of_units`).

The argument is about integers with at most 53 binary digits before their zeros, which doubles are
in these units (`IsShort`). The exact sum loses the digits below some place. A short integer that
has digits below that place is less than the one digit that every rounded mantissa has at its top,
and all others are multiples of the place, which a rounding to a neighbouring multiple does not
pass.
-/

namespace SpriteStage

open Float.Model (Format UnpackedFloat totalExponent)

namespace Unpacked

open Float.Model.UnpackedFloat

/-! ## Mantissas that are shifted and rounded -/

theorem mantissa_shiftRight (em : ExtendedMantissa) (k : ℕ) :
    (em >>> k).mantissa = em.mantissa / 2 ^ k := by
  induction k with
  | zero => exact (Nat.div_one _).symm
  | succ k ih =>
    show (em >>> k).mantissa / 2 = _
    rw [ih, Nat.div_div_eq_div_mul, ← Nat.pow_succ]

/-- Where only zeros are shifted out, nothing is lost. -/
theorem shiftRight_of_dvd {m k : ℕ} (h : 2 ^ k ∣ m) :
    (⟨m, false, false⟩ : ExtendedMantissa) >>> k = ⟨m / 2 ^ k, false, false⟩ := by
  induction k with
  | zero => exact congrArg (ExtendedMantissa.mk · false false) (Nat.div_one _).symm
  | succ k ih =>
    have heven : 2 ∣ m / 2 ^ k := by
      rwa [Nat.dvd_div_iff_mul_dvd ((Nat.pow_dvd_pow 2 k.le_succ).trans h), ← Nat.pow_succ]
    show ((⟨m, false, false⟩ : ExtendedMantissa) >>> k).shiftRightOne = _
    rw [ih ((Nat.pow_dvd_pow 2 k.le_succ).trans h), ExtendedMantissa.shiftRightOne,
      Nat.div_div_eq_div_mul, ← Nat.pow_succ]
    simp [Nat.mod_eq_zero_of_dvd heven]

/-- A mantissa without its last digits, rounded. -/
def rounded (m k : ℕ) : ℕ := ((⟨m, false, false⟩ : ExtendedMantissa) >>> k).roundedMantissa

/-- Rounding keeps a mantissa or adds one to it. -/
theorem mantissa_le_roundedMantissa (em : ExtendedMantissa) :
    em.mantissa ≤ em.roundedMantissa ∧ em.roundedMantissa ≤ em.mantissa + 1 := by
  obtain ⟨m, r, s⟩ := em
  cases r <;> cases s <;>
    simp only [ExtendedMantissa.roundedMantissa, ExtendedMantissa.accuracy,
      Accuracy.roundToNearestEven] <;> omega

/-- Rounding passes over no multiple of the place it rounds to, coming from above. -/
theorem le_rounded {n m k : ℕ} (h : n * 2 ^ k ≤ m) : n ≤ rounded m k := by
  refine le_trans ?_ (mantissa_le_roundedMantissa _).1
  rw [mantissa_shiftRight]
  exact (Nat.le_div_iff_mul_le (Nat.two_pow_pos k)).2 h

/-- Nor coming from below. -/
theorem rounded_le {n m k : ℕ} (h : m ≤ n * 2 ^ k) : rounded m k ≤ n := by
  rcases h.eq_or_lt with rfl | hlt
  · rw [rounded, shiftRight_of_dvd (Nat.dvd_mul_left _ _), Nat.mul_div_cancel _ (Nat.two_pow_pos k)]
    rfl
  · refine le_trans (mantissa_le_roundedMantissa _).2 ?_
    rw [mantissa_shiftRight]
    exact (Nat.div_lt_iff_lt_mul (Nat.two_pow_pos k)).2 hlt

/-! ## Short integers -/

/-- The integer has at most 53 binary digits before its zeros. -/
def IsShort (n : ℕ) : Prop := ∃ m k, m < 2 ^ 53 ∧ n = m * 2 ^ k

/-- Of an integer that has more than 53 digits, as many are kept as fit. -/
theorem rounded_passes {n r place : ℕ} (htop : 2 ^ (52 + place) ≤ n ∨ place = 0)
    (hle : ∀ j, j * 2 ^ place ≤ n → j ≤ r) (hge : ∀ j, n ≤ j * 2 ^ place → r ≤ j) {z : ℕ}
    (hz : IsShort z) : (z ≤ n → z ≤ r * 2 ^ place) ∧ (n ≤ z → r * 2 ^ place ≤ z) := by
  obtain ⟨m, k, hm, rfl⟩ := hz
  rcases le_or_gt place k with hplace | hplace
  · -- a multiple of the place
    have hmultiple : m * 2 ^ k = m * 2 ^ (k - place) * 2 ^ place := by
      rw [mul_assoc, ← pow_add, Nat.sub_add_cancel hplace]
    rw [hmultiple]
    exact ⟨fun h => Nat.mul_le_mul_right _ (hle _ h), fun h => Nat.mul_le_mul_right _ (hge _ h)⟩
  · -- below the top digit
    have hn : 2 ^ (52 + place) ≤ n := htop.resolve_right (by omega)
    have hz : m * 2 ^ k < 2 ^ (52 + place) :=
      calc m * 2 ^ k < 2 ^ 53 * 2 ^ k := Nat.mul_lt_mul_of_pos_right hm (Nat.two_pow_pos k)
        _ = 2 ^ (53 + k) := (pow_add ..).symm
        _ ≤ 2 ^ (52 + place) := Nat.pow_le_pow_right (by omega) (by omega)
    have hr : 2 ^ (52 + place) ≤ r * 2 ^ place := by
      rw [pow_add] at hn ⊢
      exact Nat.mul_le_mul_right _ (hle _ hn)
    exact ⟨fun _ => by omega, fun h => by omega⟩

/-! ## Rounding -/

/-- What a finite number is in units of `2 ^ -1074`. -/
def units : UnpackedFloat → ℤ
  | .finite s m e _ => s.apply (m * 2 ^ (e + 1074).toNat : ℕ)
  | _ => 0

/-- The number is finite, and its exponent is as small as 53 digits allow. -/
def IsCanonical : UnpackedFloat → Prop
  | .zero _ => True
  | .finite _ m e _ => m < 2 ^ 53 ∧ -1074 ≤ e ∧ (2 ^ 52 ≤ m ∨ e = -1074)
  | _ => False

/-- The place down to which an integer has to lose its digits. -/
theorem targetExponent_eq (m place : ℕ) :
    Format.binary64.targetExponent (totalExponent m (place - 1074)) =
      (m.log2 + place - 52 : ℕ) - 1074 := by
  simp only [Format.targetExponent, totalExponent, Format.mantissaBits, Format.minExponent]
  omega

/-- A mantissa is shifted by as many places as it has digits too many, and its exponent grows by as
many. -/
theorem shiftToTargetExponent_eq (m place : ℕ) :
    shiftToTargetExponent .binary64 m (place - 1074) .exact =
      ((⟨m, false, false⟩ : ExtendedMantissa) >>> (m.log2 + place - 52 - place),
        ((max place (m.log2 + place - 52) : ℕ) : ℤ) - 1074) := by
  have hshift : (((m.log2 + place - 52 : ℕ) : ℤ) - 1074 - ((place : ℤ) - 1074)).toNat =
      m.log2 + place - 52 - place := by omega
  rw [shiftToTargetExponent, targetExponent_eq, shiftToExponent, hshift]
  refine Prod.ext rfl ?_
  show (place : ℤ) - 1074 + (m.log2 + place - 52 - place : ℕ) = _
  omega

/-- A rounded mantissa as a number: one that was rounded up to 54 digits loses its last zero. -/
def carried (s : Sign) (r place : ℕ) : UnpackedFloat :=
  let second := shiftToTargetExponent .binary64 r (place - 1074) .exact
  if h : second.1.mantissa = 0 then .zero s
  else .finite s second.1.mantissa second.2 (Nat.pos_of_ne_zero h)

/-- A mantissa of 53 digits is canonical as it is, and so is one more after its last zero is lost.
The value is the same. -/
theorem carried_spec (s : Sign) {r place : ℕ} (hr : r ≤ 2 ^ 53) (htop : 2 ^ 52 ≤ r ∨ place = 0) :
    IsCanonical (carried s r place) ∧ units (carried s r place) = s.apply (r * 2 ^ place : ℕ) := by
  obtain ⟨m, p, hm, hp, hvalue, hshift⟩ : ∃ m p : ℕ, m < 2 ^ 53 ∧ (2 ^ 52 ≤ m ∨ p = 0) ∧
      m * 2 ^ p = r * 2 ^ place ∧ shiftToTargetExponent .binary64 r (place - 1074) .exact =
        (⟨m, false, false⟩, (p : ℤ) - 1074) := by
    rcases hr.lt_or_eq with hlt | rfl
    · have hlog : r.log2 ≤ 52 := by
        rcases Nat.eq_zero_or_pos r with rfl | hpos
        · simp
        · have := (Nat.log2_lt hpos.ne').2 hlt
          omega
      refine ⟨r, place, hlt, htop, rfl, ?_⟩
      rw [shiftToTargetExponent_eq, show r.log2 + place - 52 - place = 0 by omega,
        max_eq_left (by omega)]
      rfl
    · refine ⟨2 ^ 52, place + 1, by decide, Or.inl le_rfl, by rw [pow_succ]; ring, ?_⟩
      rw [shiftToTargetExponent_eq, Nat.log2_two_pow,
        show 53 + place - 52 - place = 1 by omega, max_eq_right (by omega),
        show 53 + place - 52 = place + 1 by omega]
      rfl
  have hcarried : carried s r place = if h : m = 0 then .zero s
      else .finite s m ((p : ℤ) - 1074) (Nat.pos_of_ne_zero h) := by
    simp only [carried, hshift]
  rw [hcarried]
  split
  · rename_i hzero
    refine ⟨trivial, ?_⟩
    rw [← hvalue, hzero, zero_mul]
    cases s <;> rfl
  · refine ⟨⟨hm, by omega, by omega⟩, ?_⟩
    rw [units, ← hvalue, show ((p : ℤ) - 1074 + 1074).toNat = p by omega]

theorem mul_two_pow_le_iff {a b k l : ℕ} :
    a * 2 ^ k ≤ b * 2 ^ l ↔ a * 2 ^ (k - l) ≤ b * 2 ^ (l - k) := by
  rcases le_total k l with h | h
  · obtain ⟨d, rfl⟩ := Nat.exists_eq_add_of_le h
    rw [pow_add, mul_left_comm, mul_comm a, Nat.mul_le_mul_left_iff (Nat.two_pow_pos k),
      Nat.sub_eq_zero_of_le h, Nat.add_sub_cancel_left, pow_zero, mul_one]
  · obtain ⟨d, rfl⟩ := Nat.exists_eq_add_of_le h
    rw [pow_add, mul_left_comm, mul_comm b, Nat.mul_le_mul_left_iff (Nat.two_pow_pos l),
      Nat.sub_eq_zero_of_le h, Nat.add_sub_cancel_left, pow_zero, mul_one]

theorem log2_mul_two_pow {m : ℕ} (hm : 0 < m) (k : ℕ) : (m * 2 ^ k).log2 = m.log2 + k := by
  rw [Nat.log2_eq_iff (by positivity), add_right_comm, pow_add, pow_add]
  exact ⟨Nat.mul_le_mul_right _ (Nat.log2_self_le hm.ne'),
    Nat.mul_lt_mul_of_pos_right Nat.lt_log2_self (Nat.two_pow_pos k)⟩

/-- Rounding keeps the digits above a place, and carries. -/
theorem round_eq (s : Sign) {m : ℕ} (hm : 0 < m) {place target : ℕ}
    (htarget : target = m.log2 + place - 52) :
    UnpackedFloat.round .binary64 s m (place - 1074) =
      carried s (rounded (m * 2 ^ (place - target)) (target - place)) target := by
  have hdecrease : decreaseExponent m ((place : ℤ) - 1074) ((target : ℤ) - 1074) =
      (m * 2 ^ (place - target), ((min place target : ℕ) : ℤ) - 1074) := by
    rw [decreaseExponent, Nat.shiftLeft_eq,
      show ((place : ℤ) - 1074 - ((target : ℤ) - 1074)).toNat = place - target by omega]
    refine Prod.ext rfl ?_
    show (place : ℤ) - 1074 - (place - target : ℕ) = _
    omega
  have hshift : shiftToTargetExponent .binary64 (m * 2 ^ (place - target))
      (((min place target : ℕ) : ℤ) - 1074) .exact =
      ((⟨m * 2 ^ (place - target), false, false⟩ : ExtendedMantissa) >>> (target - place),
        (target : ℤ) - 1074) := by
    rw [shiftToTargetExponent_eq, log2_mul_two_pow hm,
      show m.log2 + (place - target) + min place target - 52 = target by omega,
      show target - min place target = target - place by omega, max_eq_right (by omega)]
  rw [UnpackedFloat.round, targetExponent_eq, ← htarget, hdecrease]
  simp only [roundWithAccuracy, hshift]
  rfl

/-- **A rounding is canonical and passes over no short integer.** -/
theorem round_passes (s : Sign) {m : ℕ} (hm : 0 < m) (place : ℕ) :
    IsCanonical (UnpackedFloat.round .binary64 s m (place - 1074)) ∧
    ∃ n : ℕ, units (UnpackedFloat.round .binary64 s m (place - 1074)) = s.apply n ∧
      ∀ z, IsShort z → (z ≤ m * 2 ^ place → z ≤ n) ∧ (m * 2 ^ place ≤ z → n ≤ z) := by
  obtain ⟨target, htarget⟩ : ∃ target, target = m.log2 + place - 52 := ⟨_, rfl⟩
  rw [round_eq s hm htarget]
  have hle : ∀ j, j * 2 ^ target ≤ m * 2 ^ place →
      j ≤ rounded (m * 2 ^ (place - target)) (target - place) :=
    fun j hj => le_rounded (mul_two_pow_le_iff.1 hj)
  have hge : ∀ j, m * 2 ^ place ≤ j * 2 ^ target →
      rounded (m * 2 ^ (place - target)) (target - place) ≤ j :=
    fun j hj => rounded_le (mul_two_pow_le_iff.1 hj)
  generalize rounded (m * 2 ^ (place - target)) (target - place) = r at hle hge ⊢
  have htop : 2 ^ (52 + target) ≤ m * 2 ^ place ∨ target = 0 := by
    by_cases hzero : target = 0
    · exact Or.inr hzero
    · left
      calc 2 ^ (52 + target) = 2 ^ m.log2 * 2 ^ place := by
            rw [← pow_add]
            congr 1
            omega
        _ ≤ m * 2 ^ place := Nat.mul_le_mul_right _ (Nat.log2_self_le hm.ne')
  have hr : r ≤ 2 ^ 53 := by
    apply hge
    calc m * 2 ^ place ≤ 2 ^ (m.log2 + 1) * 2 ^ place :=
          Nat.mul_le_mul_right _ Nat.lt_log2_self.le
      _ = 2 ^ (m.log2 + 1 + place) := (pow_add ..).symm
      _ ≤ 2 ^ (53 + target) := Nat.pow_le_pow_right (by omega) (by omega)
      _ = 2 ^ 53 * 2 ^ target := pow_add ..
  have hrtop : 2 ^ 52 ≤ r ∨ target = 0 := by
    refine htop.imp_left fun h => hle _ ?_
    rwa [pow_add] at h
  obtain ⟨hcanonical, hunits⟩ := carried_spec s hr hrtop
  exact ⟨hcanonical, _, hunits, fun z hz => rounded_passes htop hle hge hz⟩

/-! ## Sums -/

/-- The number is canonical, and no short integer is passed over from the integer to it. -/
def RoundsTo (x : ℤ) (u : UnpackedFloat) : Prop :=
  IsCanonical u ∧ ∀ z : ℤ, IsShort z.natAbs → (z ≤ x → z ≤ units u) ∧ (x ≤ z → units u ≤ z)

/-- A canonical number is what its own units are rounded to. -/
theorem RoundsTo.refl {u : UnpackedFloat} (hu : IsCanonical u) : RoundsTo (units u) u :=
  ⟨hu, fun _ _ => ⟨id, id⟩⟩

/-- Normalizing rounds: no short integer is passed over. -/
theorem normalize_roundsTo (m : ℤ) (place : ℕ) (s : Sign) :
    RoundsTo (m * 2 ^ place) (UnpackedFloat.normalize .binary64 m (place - 1074) s) := by
  have hpow : (0 : ℤ) < 2 ^ place := by positivity
  unfold UnpackedFloat.normalize
  rcases lt_trichotomy m 0 with hm | rfl | hm
  · rw [show compare m 0 = .lt from compare_lt_iff_lt.2 hm]
    obtain ⟨hcanonical, n, hn, hpasses⟩ :=
      round_passes .negative (show 0 < (-m).toNat by omega) place
    refine ⟨hcanonical, fun z hz => ?_⟩
    have hvalue : (((-m).toNat * 2 ^ place : ℕ) : ℤ) = -(m * 2 ^ place) := by
      push_cast
      rw [Int.toNat_of_nonneg (by omega), neg_mul]
    have hneg : m * 2 ^ place < 0 := mul_neg_of_neg_of_pos hm hpow
    obtain ⟨hle, hge⟩ := hpasses _ hz
    simp only [hn, Sign.apply]
    constructor
    · intro h
      have := hge (by omega)
      omega
    · intro h
      by_cases hsign : z < 0
      · have := hle (by omega)
        omega
      · omega
  · refine ⟨trivial, fun z _ => ?_⟩
    simp [compare, compareOfLessAndEq, units]
  · rw [show compare m 0 = .gt from compare_gt_iff_gt.2 hm]
    obtain ⟨hcanonical, n, hn, hpasses⟩ :=
      round_passes .positive (show 0 < m.toNat by omega) place
    refine ⟨hcanonical, fun z hz => ?_⟩
    have hvalue : ((m.toNat * 2 ^ place : ℕ) : ℤ) = m * 2 ^ place := by
      push_cast
      rw [Int.toNat_of_nonneg (by omega)]
    have hpos : 0 < m * 2 ^ place := mul_pos hm hpow
    obtain ⟨hle, hge⟩ := hpasses _ hz
    simp only [hn, Sign.apply]
    constructor
    · intro h
      by_cases hsign : 0 < z
      · have := hle (by omega)
        omega
      · omega
    · intro h
      have := hge (by omega)
      omega

/-- The sign of a product with a power of two is that of the mantissa. -/
theorem apply_mul_two_pow (s : Sign) (m k : ℕ) : s.apply (m * 2 ^ k : ℕ) = s.apply m * 2 ^ k := by
  cases s <;> simp [Sign.apply]

/-- The units of a finite number are its mantissa, moved by its exponent. -/
theorem units_finite (s : Sign) {m : ℕ} (hm : 0 < m) (place : ℕ) :
    units (.finite s m (place - 1074) hm) = s.apply m * 2 ^ place := by
  rw [units, apply_mul_two_pow, show ((place : ℤ) - 1074 + 1074).toNat = place by omega]

/-- Two numbers are added at the lesser one of their places. -/
theorem add_finite (s t : Sign) {m n : ℕ} (hm : 0 < m) (hn : 0 < n) (k l : ℕ) :
    UnpackedFloat.add .binary64 (.finite s m (k - 1074) hm) (.finite t n (l - 1074) hn) =
      UnpackedFloat.normalize .binary64
        (s.apply (m * 2 ^ (k - min k l) : ℕ) + t.apply (n * 2 ^ (l - min k l) : ℕ))
        ((min k l : ℕ) - 1074) .positive := by
  have hmin : min ((k : ℤ) - 1074) (l - 1074) = (min k l : ℕ) - 1074 := by omega
  have hk : ((k : ℤ) - 1074 - ((min k l : ℕ) - 1074)).toNat = k - min k l := by omega
  have hl : ((l : ℤ) - 1074 - ((min k l : ℕ) - 1074)).toNat = l - min k l := by omega
  simp only [UnpackedFloat.add, decreaseExponent, hmin, hk, hl, Nat.shiftLeft_eq]

/-- **A sum passes over no short integer.** -/
theorem add_roundsTo {u v : UnpackedFloat} (hu : IsCanonical u) (hv : IsCanonical v) :
    RoundsTo (units u + units v) (UnpackedFloat.add .binary64 u v) := by
  cases u with
  | infinity s => exact hu.elim
  | notANumber => exact hu.elim
  | zero s =>
    cases v with
    | infinity t => exact hv.elim
    | notANumber => exact hv.elim
    | zero t => cases s <;> cases t <;> exact ⟨trivial, fun _ _ => ⟨id, id⟩⟩
    | finite t n f hn =>
      have hsum : units (.zero s) + units (.finite t n f hn) = units (.finite t n f hn) :=
        zero_add _
      rw [hsum]
      exact .refl hv
  | finite s m e hm =>
    cases v with
    | infinity t => exact hv.elim
    | notANumber => exact hv.elim
    | zero t =>
      have hsum : units (.finite s m e hm) + units (.zero t) = units (.finite s m e hm) :=
        add_zero _
      rw [hsum]
      exact .refl hu
    | finite t n f hn =>
      obtain ⟨-, he, -⟩ := hu
      obtain ⟨-, hf, -⟩ := hv
      obtain ⟨k, rfl⟩ : ∃ k : ℕ, e = k - 1074 := ⟨(e + 1074).toNat, by omega⟩
      obtain ⟨l, rfl⟩ : ∃ l : ℕ, f = l - 1074 := ⟨(f + 1074).toNat, by omega⟩
      have hsum : s.apply m * 2 ^ k + t.apply n * 2 ^ l =
          (s.apply (m * 2 ^ (k - min k l) : ℕ) + t.apply (n * 2 ^ (l - min k l) : ℕ)) *
            2 ^ min k l := by
        rw [apply_mul_two_pow, apply_mul_two_pow, add_mul, mul_assoc, mul_assoc, ← pow_add,
          ← pow_add, Nat.sub_add_cancel (min_le_left k l), Nat.sub_add_cancel (min_le_right k l)]
      rw [units_finite, units_finite, add_finite, hsum]
      exact normalize_roundsTo ..

/-! ## Numbers that are packed -/

/-- The digits of a normal number have a one in front. -/
theorem toNat_one_append (digits : BitVec 52) : (1#1 ++ digits).toNat = 2 ^ 52 + digits.toNat := by
  rw [BitVec.toNat_append, ← Nat.shiftLeft_add_eq_or_of_lt digits.isLt]
  rfl

/-- A normal number is unpacked as it was packed. -/
theorem unpack_pack_normal (s : Sign) {m k : ℕ} (hm : 0 < m) (h : 2 ^ 52 ≤ m) (h' : m < 2 ^ 53)
    (hk : k < 2046) :
    unpack .binary64 (pack .binary64 (.finite s m (k - 1074) hm)) = .finite s m (k - 1074) hm := by
  have hlog : m.log2 = 52 := (Nat.log2_eq_iff hm.ne').2 ⟨h, h'⟩
  have hbiased : ((k : ℤ) - 1074 + Format.binary64.exponentBias +
      Format.binary64.mantissaBitsWithoutImplicit).toNat = k + 1 := by
    show ((k : ℤ) - 1074 + 1023 + 52).toNat = k + 1
    omega
  have hexponent : (BitVec.ofNat 11 (k + 1)).toNat = k + 1 := by
    rw [BitVec.toNat_ofNat]
    omega
  have hspecial : BitVec.ofNat 11 (k + 1) ≠ -1#11 := by
    intro heq
    have : k + 1 = 2047 := by rw [← hexponent, heq]; rfl
    omega
  have hzero : BitVec.ofNat 11 (k + 1) ≠ 0#11 := by
    intro heq
    have : k + 1 = 0 := by rw [← hexponent, heq]; rfl
    omega
  simp only [pack, hbiased, hlog]
  rw [if_neg (show ¬ 2 ^ 11 ≤ k + 1 + 1 by omega), if_pos (by rfl)]
  unfold unpack
  simp only [unpackSign_packComponents, unpackExponent_packComponents,
    unpackMantissa_packComponents, Sign.ofBitVec_toBitVec]
  rw [if_neg hspecial, if_neg hzero]
  congr 1
  · rw [toNat_one_append, BitVec.toNat_ofNat]
    omega
  · show ((BitVec.ofNat 11 (k + 1)).toNat : ℤ) - (1023 + 52) = k - 1074
    rw [hexponent]
    omega

/-- So is a subnormal one. -/
theorem unpack_pack_subnormal (s : Sign) {m : ℕ} (hm : 0 < m) (h : m < 2 ^ 52) :
    unpack .binary64 (pack .binary64 (.finite s m (-1074) hm)) = .finite s m (-1074) hm := by
  have hlog : m.log2 + 1 ≠ 53 := by
    have := (Nat.log2_lt hm.ne').2 h
    omega
  have hmantissa : (BitVec.ofNat 52 m).toNat = m := by
    rw [BitVec.toNat_ofNat]
    omega
  have hzero : BitVec.ofNat 52 m ≠ 0#52 := by
    intro heq
    have : m = 0 := by rw [← hmantissa, heq]; rfl
    omega
  simp only [pack]
  rw [if_neg (by decide), if_neg (show ¬ m.log2 + 1 = Format.binary64.mantissaBits from hlog)]
  unfold unpack
  simp only [unpackSign_packComponents, unpackExponent_packComponents,
    unpackMantissa_packComponents, Sign.ofBitVec_toBitVec]
  rw [if_neg (by decide), if_pos trivial, dif_neg hzero]
  congr 1

/-- The exponent is that of a double. -/
def InRange : UnpackedFloat → Prop
  | .finite _ _ e _ => e < 972
  | _ => True

/-- Packing loses nothing of a canonical number in range. -/
theorem unpack_pack {u : UnpackedFloat} (hu : IsCanonical u) (hrange : InRange u) :
    unpack .binary64 (pack .binary64 u) = u := by
  cases u with
  | infinity s => exact hu.elim
  | notANumber => exact hu.elim
  | zero s => exact unpack_packedZero
  | finite s m e hm =>
    obtain ⟨hm', he, htop⟩ := hu
    have hrange : e < 972 := hrange
    obtain ⟨k, rfl⟩ : ∃ k : ℕ, e = k - 1074 := ⟨(e + 1074).toNat, by omega⟩
    by_cases hnormal : 2 ^ 52 ≤ m
    · exact unpack_pack_normal s hm hnormal hm' (by omega)
    · obtain rfl : k = 0 := by omega
      exact unpack_pack_subnormal s hm (by omega)

/-- What is past the greatest double is infinite. -/
theorem unpack_pack_of_not_inRange {u : UnpackedFloat} (hrange : ¬ InRange u) :
    ∃ s m e hm, 972 ≤ e ∧ u = .finite s m e hm ∧
      unpack .binary64 (pack .binary64 u) = .infinity s := by
  cases u with
  | infinity s => exact absurd trivial hrange
  | notANumber => exact absurd trivial hrange
  | zero s => exact absurd trivial hrange
  | finite s m e hm =>
    have he : 972 ≤ e := not_lt.1 hrange
    refine ⟨s, m, e, hm, he, rfl, ?_⟩
    have hbiased : 2 ^ 11 ≤ (e + Format.binary64.exponentBias +
        Format.binary64.mantissaBitsWithoutImplicit).toNat + 1 := by
      show 2 ^ 11 ≤ (e + 1023 + 52).toNat + 1
      omega
    simp only [pack]
    rw [if_pos hbiased]
    cases s <;> rfl

/-- What the bits of a double unpack to is canonical and in range, if it is finite. -/
theorem isCanonical_unpack {b : BitVec Format.binary64.numBits}
    (h : (unpack .binary64 b).isFinite = true) :
    IsCanonical (unpack .binary64 b) ∧ InRange (unpack .binary64 b) := by
  have hbias : ((Format.binary64.exponentBias : ℤ) + Format.binary64.mantissaBitsWithoutImplicit) =
      1075 := rfl
  have hmantissa : (@unpackMantissa .binary64 b).toNat < 2 ^ 52 := BitVec.isLt _
  have hexponent : (@unpackExponent .binary64 b).toNat < 2 ^ 11 := BitVec.isLt _
  unfold unpack at h ⊢
  simp only [hbias] at h ⊢
  split
  · rename_i hspecial
    rw [if_pos hspecial] at h
    split at h <;> cases h
  · rename_i hspecial
    split
    · rename_i hzero
      split
      · exact ⟨trivial, trivial⟩
      · rw [hzero]
        exact ⟨⟨by omega, by decide, Or.inr rfl⟩, show (_ : ℤ) < 972 by decide⟩
    · rename_i hzero
      have hlt : (@unpackExponent .binary64 b).toNat ≠ 2047 := fun heq =>
        hspecial (BitVec.eq_of_toNat_eq heq)
      have hpos : (@unpackExponent .binary64 b).toNat ≠ 0 := fun heq =>
        hzero (BitVec.eq_of_toNat_eq heq)
      have hone := toNat_one_append (@unpackMantissa .binary64 b)
      refine ⟨⟨?_, ?_, Or.inl ?_⟩, show (_ : ℤ) < 972 by omega⟩
      · rw [hone]
        omega
      · omega
      · rw [hone]
        omega

/-! ## The order of numbers -/

/-- Canonical numbers are compared by their exponents first and then by their mantissas. -/
theorem mul_two_pow_lt_iff {m n k l : ℕ} (hm : m < 2 ^ 53) (hn : n < 2 ^ 53)
    (hk : 2 ^ 52 ≤ m ∨ k = 0) (hl : 2 ^ 52 ≤ n ∨ l = 0) :
    m * 2 ^ k < n * 2 ^ l ↔ k < l ∨ k = l ∧ m < n := by
  have hlt : ∀ {m n k l : ℕ}, m < 2 ^ 53 → (2 ^ 52 ≤ n ∨ l = 0) → k < l →
      m * 2 ^ k < n * 2 ^ l := by
    intro m n k l hm hl h
    calc m * 2 ^ k < 2 ^ 53 * 2 ^ k := Nat.mul_lt_mul_of_pos_right hm (Nat.two_pow_pos k)
      _ = 2 ^ 52 * 2 ^ (k + 1) := by rw [pow_succ]; ring
      _ ≤ n * 2 ^ l := Nat.mul_le_mul (by omega) (Nat.pow_le_pow_right (by omega) h)
  rcases lt_trichotomy k l with h | rfl | h
  · exact iff_of_true (hlt hm hl h) (Or.inl h)
  · rw [Nat.mul_lt_mul_right (Nat.two_pow_pos k)]
    simp
  · refine iff_of_false (hlt hn hk h).not_gt ?_
    omega

/-- Canonical numbers are ranked by their units. -/
theorem rank_lt_iff {u v : UnpackedFloat} (hu : IsCanonical u) (hv : IsCanonical v) :
    rank u < rank v ↔ units u < units v := by
  cases u with
  | infinity s => exact hu.elim
  | notANumber => exact hu.elim
  | zero s =>
    cases v with
    | infinity t => exact hv.elim
    | notANumber => exact hv.elim
    | zero t => exact iff_of_false (lt_irrefl _) (lt_irrefl _)
    | finite t n f hn =>
      have hpos : (0 : ℤ) < (n * 2 ^ (f + 1074).toNat : ℕ) := by positivity
      cases t <;> simp only [rank, units, Sign.apply, Prod.Lex.toLex_lt_toLex] <;> omega
  | finite s m e hm =>
    have hpos : (0 : ℤ) < (m * 2 ^ (e + 1074).toNat : ℕ) := by positivity
    cases v with
    | infinity t => exact hv.elim
    | notANumber => exact hv.elim
    | zero t => cases s <;> simp only [rank, units, Sign.apply, Prod.Lex.toLex_lt_toLex] <;> omega
    | finite t n f hn =>
      have hpos' : (0 : ℤ) < (n * 2 ^ (f + 1074).toNat : ℕ) := by positivity
      obtain ⟨hm', he, hmtop⟩ := hu
      obtain ⟨hn', hf, hntop⟩ := hv
      have htop : 2 ^ 52 ≤ m ∨ (e + 1074).toNat = 0 := by omega
      have htop' : 2 ^ 52 ≤ n ∨ (f + 1074).toNat = 0 := by omega
      have hlt := mul_two_pow_lt_iff hm' hn' htop htop'
      have hgt := mul_two_pow_lt_iff hn' hm' htop' htop
      show _ ↔ s.apply (m * 2 ^ (e + 1074).toNat : ℕ) < t.apply (n * 2 ^ (f + 1074).toNat : ℕ)
      have hplace : (e + 1074).toNat < (f + 1074).toNat ↔ e < f := by omega
      have hplace' : (f + 1074).toNat < (e + 1074).toNat ↔ f < e := by omega
      have hsame : (e + 1074).toNat = (f + 1074).toNat ↔ e = f := by omega
      generalize (e + 1074).toNat = k at *
      generalize (f + 1074).toNat = l at *
      generalize m * 2 ^ k = x at *
      generalize n * 2 ^ l = y at *
      cases s <;> cases t <;>
        simp only [rank, Sign.apply, Prod.Lex.toLex_lt_toLex, true_and] <;> omega

/-- Packing does not take a number to the other side of a finite double. -/
theorem rank_unpack_pack {u v : UnpackedFloat} (hu : IsCanonical u) (hv : IsCanonical v)
    (hrange : InRange v) :
    (rank (unpack .binary64 (pack .binary64 u)) ≤ rank v ↔ units u ≤ units v) ∧
      (rank v ≤ rank (unpack .binary64 (pack .binary64 u)) ↔ units v ≤ units u) := by
  rw [← not_lt, ← not_lt, ← not_lt, ← not_lt, ← rank_lt_iff hu hv, ← rank_lt_iff hv hu]
  by_cases hurange : InRange u
  · rw [unpack_pack hu hurange]
    exact ⟨Iff.rfl, Iff.rfl⟩
  · obtain ⟨s, m, e, hm, he, rfl, hinfinite⟩ := unpack_pack_of_not_inRange hurange
    rw [hinfinite]
    cases v with
    | infinity t => exact hv.elim
    | notANumber => exact hv.elim
    | zero t => cases s <;> simp [rank, Sign.apply, Prod.Lex.toLex_lt_toLex]
    | finite t n f hn =>
      have hf : f < 972 := hrange
      cases s <;> cases t <;> simp [rank, Sign.apply, Prod.Lex.toLex_lt_toLex] <;> omega

/-- The kind is what tells whether a number is finite. -/
theorem isFinite_iff_rank {u : UnpackedFloat} :
    u.isFinite = true ↔ -1 ≤ (ofLex (rank u)).1 ∧ (ofLex (rank u)).1 ≤ 1 := by
  cases u with
  | notANumber => exact iff_of_false Bool.false_ne_true (by decide)
  | zero s => exact iff_of_true rfl (show (-1 : ℤ) ≤ 0 ∧ (0 : ℤ) ≤ 1 by decide)
  | infinity s => cases s <;> exact iff_of_false Bool.false_ne_true (by decide)
  | finite s m e hm =>
    refine iff_of_true rfl ?_
    show -1 ≤ s.apply 1 ∧ s.apply 1 ≤ 1
    cases s <;> decide

/-- A canonical number has at most 53 digits. -/
theorem isShort_units {u : UnpackedFloat} (hu : IsCanonical u) : IsShort (units u).natAbs := by
  cases u with
  | infinity s => exact hu.elim
  | notANumber => exact hu.elim
  | zero s => exact ⟨0, 0, by decide, rfl⟩
  | finite s m e hm =>
    refine ⟨m, (e + 1074).toNat, hu.1, ?_⟩
    cases s <;> simp only [units, Sign.apply, Int.natAbs_neg, Int.natAbs_natCast]

end Unpacked

/-! ## Doubles -/

/-- What a finite double is in units of `2 ^ -1074`. -/
def units (x : Float) : ℤ := Unpacked.units (unpacked x)

variable {x y z : Float}

theorem isCanonical_unpacked (hx : x.isFinite = true) :
    Unpacked.IsCanonical (unpacked x) ∧ Unpacked.InRange (unpacked x) :=
  Unpacked.isCanonical_unpack hx

theorem isNaN_of_isFinite (hx : x.isFinite = true) : x.isNaN = false := by
  rw [isNaN_eq_false_iff]
  intro hnan
  have hcanonical := (isCanonical_unpacked hx).1
  rw [hnan] at hcanonical
  exact hcanonical

theorem lt_iff_units (hx : x.isFinite = true) (hy : y.isFinite = true) :
    x < y ↔ units x < units y := by
  rw [lt_iff_rank, and_iff_right ⟨isNaN_of_isFinite hx, isNaN_of_isFinite hy⟩]
  exact Unpacked.rank_lt_iff (isCanonical_unpacked hx).1 (isCanonical_unpacked hy).1

/-- **Finite doubles are compared by their units.** -/
theorem le_iff_units (hx : x.isFinite = true) (hy : y.isFinite = true) :
    x ≤ y ↔ units x ≤ units y := by
  rw [← Float.not_lt (isNaN_of_isFinite hy) (isNaN_of_isFinite hx), lt_iff_units hy hx, not_lt]

/-- What lies between finite doubles is finite. -/
theorem isFinite_of_le (hx : x.isFinite = true) (hz : z.isFinite = true) (hxy : x ≤ y)
    (hyz : y ≤ z) : y.isFinite = true := by
  have hlow := (Unpacked.isFinite_iff_rank.1 hx).1
  have hhigh := (Unpacked.isFinite_iff_rank.1 hz).2
  have hbelow := Prod.Lex.monotone_fst _ _ (le_iff_rank.1 hxy).2
  have habove := Prod.Lex.monotone_fst _ _ (le_iff_rank.1 hyz).2
  exact Unpacked.isFinite_iff_rank.2 ⟨hlow.trans hbelow, habove.trans hhigh⟩

/-- The sum of two doubles is that of what they unpack to, packed and unpacked once more. -/
theorem unpacked_add (x y : Float) : unpacked (x + y) = UnpackedFloat.unpack .binary64
    (UnpackedFloat.pack .binary64 (UnpackedFloat.add .binary64 (unpacked x) (unpacked y))) := rfl

/-- A sum of finite doubles is a number, though it may be infinite. -/
theorem isNaN_add (hx : x.isFinite = true) (hy : y.isFinite = true) : (x + y).isNaN = false := by
  rw [isNaN_eq_false_iff, unpacked_add]
  refine Unpacked.unpack_pack_ne_notANumber _ fun hnan => ?_
  have hsum := (Unpacked.add_roundsTo (isCanonical_unpacked hx).1 (isCanonical_unpacked hy).1).1
  rw [hnan] at hsum
  exact hsum

/-- **A sum stays below a double that the exact sum is not above.** -/
theorem add_le_of_units (hx : x.isFinite = true) (hy : y.isFinite = true) (hz : z.isFinite = true)
    (h : units x + units y ≤ units z) : x + y ≤ z := by
  obtain ⟨hcanonical, hrange⟩ := isCanonical_unpacked hz
  obtain ⟨hsum, hpasses⟩ :=
    Unpacked.add_roundsTo (isCanonical_unpacked hx).1 (isCanonical_unpacked hy).1
  rw [le_iff_rank, and_iff_right ⟨isNaN_add hx hy, isNaN_of_isFinite hz⟩, rank, unpacked_add]
  exact (Unpacked.rank_unpack_pack hsum hcanonical hrange).1.2
    ((hpasses _ (Unpacked.isShort_units hcanonical)).2 h)

/-- **A sum stays above a double that the exact sum is not below.** -/
theorem le_add_of_units (hx : x.isFinite = true) (hy : y.isFinite = true) (hz : z.isFinite = true)
    (h : units z ≤ units x + units y) : z ≤ x + y := by
  obtain ⟨hcanonical, hrange⟩ := isCanonical_unpacked hz
  obtain ⟨hsum, hpasses⟩ :=
    Unpacked.add_roundsTo (isCanonical_unpacked hx).1 (isCanonical_unpacked hy).1
  rw [le_iff_rank, and_iff_right ⟨isNaN_of_isFinite hz, isNaN_add hx hy⟩, rank, rank,
    unpacked_add]
  exact (Unpacked.rank_unpack_pack hsum hcanonical hrange).2.2
    ((hpasses _ (Unpacked.isShort_units hcanonical)).1 h)

end SpriteStage
