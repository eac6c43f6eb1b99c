import Mathlib
import SpriteStage.Proofs.Distances

/-!
# The order of doubles

Two doubles are compared by their ranks in a linear order, and a NaN compares with nothing
(`lt_iff_rank`, `le_iff_rank`, `beq_iff_rank`). So doubles are ordered as other numbers are, as long
as there is no NaN among them. None comes of taking a finite number away (`Float.isNaN_sub`).
-/

namespace SpriteStage

open Float.Model (Format UnpackedFloat)

/-! ## Ranks of unpacked numbers -/

namespace Unpacked

open Float.Model.UnpackedFloat

section Compare

variable {α β : Type} [LinearOrder α] [LinearOrder β]

/-- Two comparisons agree if they agree on being less, either way round. -/
theorem compare_congr {a b : α} {c d : β} (hlt : a < b ↔ c < d) (hgt : b < a ↔ d < c) :
    compare a b = compare c d := by
  rcases lt_trichotomy a b with h | rfl | h
  · rw [compare_lt_iff_lt.2 h, compare_lt_iff_lt.2 (hlt.1 h)]
  · have heq : c = d :=
      le_antisymm (not_lt.1 (mt hgt.2 (lt_irrefl a))) (not_lt.1 (mt hlt.2 (lt_irrefl a)))
    rw [heq, compare_eq_iff_eq.2 rfl, compare_eq_iff_eq.2 rfl]
  · rw [compare_gt_iff_gt.2 h, compare_gt_iff_gt.2 (hgt.1 h)]

/-- Pairs are compared by their first parts, and then by their second ones. -/
theorem compare_toLex (a c : α) (b d : β) :
    compare (toLex (a, b)) (toLex (c, d)) = (compare a c).then (compare b d) := rfl

end Compare

/-- The rank of a number is its kind, its exponent and its mantissa, in this order, and for a
negative number all the other way round. -/
def rank : UnpackedFloat → ℤ ×ₗ ℤ ×ₗ ℤ
  | .infinity s => toLex (s.apply 2, toLex (0, 0))
  | .finite s m e _ => toLex (s.apply 1, toLex (s.apply e, s.apply m))
  | .zero _ => toLex (0, toLex (0, 0))
  | .notANumber => toLex (3, toLex (0, 0))

/-- Finite numbers are compared by their ranks. -/
theorem compare_finite (s : Sign) {m n : ℕ} {e f : ℤ} (hm : 0 < m) (hn : 0 < n) :
    (UnpackedFloat.finite s m e hm).compare (.finite s n f hn) =
      some (compare (rank (.finite s m e hm)) (rank (.finite s n f hn))) := by
  simp only [rank, compare_toLex]
  cases s with
  | positive =>
    have hmantissa : compare (m : ℤ) n = compare m n := compare_congr (by omega) (by omega)
    show some ((compare e f).then (compare m n)) =
      some ((compare e f).then (compare (m : ℤ) n))
    rw [hmantissa]
  | negative =>
    have hexponent : compare (-e) (-f) = (compare e f).swap := by
      rw [← Std.OrientedCmp.eq_swap]
      exact compare_congr (by omega) (by omega)
    have hmantissa : compare (-m : ℤ) (-n) = (compare m n).swap := by
      rw [← Std.OrientedCmp.eq_swap]
      exact compare_congr (by omega) (by omega)
    show some ((compare e f).then (compare m n)).swap =
      some ((compare (-e) (-f)).then (compare (-m : ℤ) (-n)))
    rw [hexponent, hmantissa, Ordering.swap_then]

/-- What is a number compares by rank. -/
theorem compare_eq_rank {u v : UnpackedFloat} (hu : u ≠ .notANumber) (hv : v ≠ .notANumber) :
    u.compare v = some (compare (rank u) (rank v)) := by
  cases u with
  | notANumber => exact absurd rfl hu
  | infinity s =>
    cases v with
    | notANumber => exact absurd rfl hv
    | infinity t => cases s <;> cases t <;> rfl
    | zero t => cases s <;> rfl
    | finite t n f h => cases s <;> cases t <;> rfl
  | zero s =>
    cases v with
    | notANumber => exact absurd rfl hv
    | infinity t => cases t <;> rfl
    | zero t => rfl
    | finite t n f h => cases t <;> rfl
  | finite s m e h =>
    cases v with
    | notANumber => exact absurd rfl hv
    | infinity t => cases s <;> cases t <;> rfl
    | zero t => cases s <;> rfl
    | finite t n f h' =>
      -- of two signs the kinds decide
      cases s <;> cases t
      · exact compare_finite .negative h h'
      · rfl
      · rfl
      · exact compare_finite .positive h h'

theorem compare_notANumber (u : UnpackedFloat) : u.compare .notANumber = none := by
  cases u <;> rfl

end Unpacked

/-! ## Ranks of doubles -/

/-- The rank of a double. -/
def rank (x : Float) : ℤ ×ₗ ℤ ×ₗ ℤ := Unpacked.rank (unpacked x)

variable {x y a b : Float}

theorem isNaN_eq_false_iff : x.isNaN = false ↔ unpacked x ≠ .notANumber := by
  rw [← Bool.not_eq_true, not_iff_not]
  exact UnpackedFloat.isNaN_iff

theorem isNaN_eq_true_iff : x.isNaN = true ↔ unpacked x = .notANumber := UnpackedFloat.isNaN_iff

theorem le_iff_unpacked : x ≤ y ↔ (unpacked x).le (unpacked y) = true := decide_eq_true_iff

/-- A test of a comparison is one of the ranks, and fails if there is a NaN. -/
theorem test_compare (test : Option Ordering → Bool) (hnone : test none = false) :
    test ((unpacked x).compare (unpacked y)) = true ↔
      (x.isNaN = false ∧ y.isNaN = false) ∧ test (some (compare (rank x) (rank y))) = true := by
  by_cases hnumbers : x.isNaN = false ∧ y.isNaN = false
  · rw [and_iff_right hnumbers, Unpacked.compare_eq_rank (isNaN_eq_false_iff.1 hnumbers.1)
      (isNaN_eq_false_iff.1 hnumbers.2)]
    rfl
  · have hcompare : (unpacked x).compare (unpacked y) = none := by
      rw [not_and_or, Bool.not_eq_false, Bool.not_eq_false, isNaN_eq_true_iff,
        isNaN_eq_true_iff] at hnumbers
      rcases hnumbers with hnan | hnan
      · rw [hnan]
        rfl
      · rw [hnan]
        exact Unpacked.compare_notANumber _
    rw [hcompare, hnone]
    exact iff_of_false Bool.false_ne_true fun h => hnumbers h.1

/-- **Less than.** -/
theorem lt_iff_rank : x < y ↔ (x.isNaN = false ∧ y.isNaN = false) ∧ rank x < rank y := by
  rw [lt_iff_unpacked, ← compare_lt_iff_lt]
  refine (test_compare (· == some .lt) rfl).trans (and_congr_right' ?_)
  rw [beq_iff_eq, Option.some.injEq]

/-- **Less or equal.** -/
theorem le_iff_rank : x ≤ y ↔ (x.isNaN = false ∧ y.isNaN = false) ∧ rank x ≤ rank y := by
  rw [le_iff_unpacked, ← compare_le_iff_le]
  refine (test_compare (·.any (·.isLE)) rfl).trans (and_congr_right' ?_)
  rw [Option.any_some, Ordering.isLE_iff_ne_gt]

/-- **Equal.** -/
theorem beq_iff_rank :
    (x == y) = true ↔ (x.isNaN = false ∧ y.isNaN = false) ∧ rank x = rank y := by
  rw [← compare_eq_iff_eq (a := rank x)]
  refine (test_compare (· == some .eq) rfl).trans (and_congr_right' ?_)
  rw [beq_iff_eq, Option.some.injEq]

protected theorem Float.le_of_lt (h : x < y) : x ≤ y := by
  obtain ⟨hnumbers, hlt⟩ := lt_iff_rank.1 h
  exact le_iff_rank.2 ⟨hnumbers, hlt.le⟩

protected theorem Float.le_trans (hxy : x ≤ y) (hya : y ≤ a) : x ≤ a := by
  obtain ⟨hnumbers, hle⟩ := le_iff_rank.1 hxy
  obtain ⟨hnumbers', hle'⟩ := le_iff_rank.1 hya
  exact le_iff_rank.2 ⟨⟨hnumbers.1, hnumbers'.2⟩, hle.trans hle'⟩

protected theorem Float.lt_of_lt_of_le (hxy : x < y) (hya : y ≤ a) : x < a := by
  obtain ⟨hnumbers, hlt⟩ := lt_iff_rank.1 hxy
  obtain ⟨hnumbers', hle⟩ := le_iff_rank.1 hya
  exact lt_iff_rank.2 ⟨⟨hnumbers.1, hnumbers'.2⟩, hlt.trans_le hle⟩

protected theorem Float.le_refl (hx : x.isNaN = false) : x ≤ x := le_iff_rank.2 ⟨⟨hx, hx⟩, le_rfl⟩

protected theorem Float.lt_irrefl (x : Float) : ¬ x < x := fun h => lt_irrefl _ (lt_iff_rank.1 h).2

/-- Of two numbers one is less or equal. -/
protected theorem Float.not_lt (hx : x.isNaN = false) (hy : y.isNaN = false) : ¬ x < y ↔ y ≤ x := by
  rw [lt_iff_rank, le_iff_rank, and_iff_right ⟨hx, hy⟩, and_iff_right ⟨hy, hx⟩, not_lt]

/-- Numbers are equal if neither is greater, whatever the signs of zeros. -/
protected theorem Float.beq_iff_le_and_le : (x == y) = true ↔ x ≤ y ∧ y ≤ x := by
  rw [beq_iff_rank, le_iff_rank, le_iff_rank, le_antisymm_iff (a := rank x)]
  tauto

/-- What is below one of two numbers is below the greater one. -/
protected theorem Float.le_max_iff (ha : a.isNaN = false) (hb : b.isNaN = false) :
    x ≤ max a b ↔ x ≤ a ∨ x ≤ b := by
  show x ≤ (if a ≤ b then b else a) ↔ _
  split
  · rename_i hab
    exact ⟨Or.inr, fun h => h.elim (fun hxa => Float.le_trans hxa hab) id⟩
  · rename_i hab
    have hba : b ≤ a := by
      rw [le_iff_rank, and_iff_right ⟨ha, hb⟩, not_le] at hab
      exact le_iff_rank.2 ⟨⟨hb, ha⟩, hab.le⟩
    exact ⟨Or.inl, fun h => h.elim id fun hxb => Float.le_trans hxb hba⟩

/-! ## Differences -/

namespace Unpacked

open Float.Model.UnpackedFloat

/-- Only the greatest exponent can make a NaN, and only with a mantissa. -/
theorem unpack_packComponents_ne_notANumber {spec : Format} {s : Sign}
    {e : BitVec spec.exponentBits} {m : BitVec spec.mantissaBitsWithoutImplicit}
    (h : e = -1#_ → m = 0#_) : unpack spec (packComponents spec s e m) ≠ .notANumber := by
  unfold unpack
  simp only [unpackExponent_packComponents, unpackMantissa_packComponents]
  split
  · rename_i hexponent
    rw [if_pos (h hexponent)]
    exact UnpackedFloat.noConfusion
  · split
    · split <;> exact UnpackedFloat.noConfusion
    · exact UnpackedFloat.noConfusion

/-- Packing makes no NaN. -/
theorem unpack_pack_ne_notANumber (spec : Format) {u : UnpackedFloat} (h : u ≠ .notANumber) :
    unpack spec (pack spec u) ≠ .notANumber := by
  fun_cases pack spec u with
  | case1 => exact absurd rfl h
  | case2 s => exact unpack_packComponents_ne_notANumber fun _ => rfl
  | case3 s => exact unpack_packComponents_ne_notANumber fun _ => rfl
  | case4 s m e hm biased hoverflow => exact unpack_packComponents_ne_notANumber fun _ => rfl
  | case5 s m e hm mantissaBits biased hfits hnormal =>
    refine unpack_packComponents_ne_notANumber fun hexponent => absurd hexponent ?_
    have hlt : biased < 2 ^ spec.exponentBits - 1 := by omega
    rw [BitVec.neg_one_eq_allOnes, ← BitVec.toNat_inj, BitVec.toNat_ofNat, BitVec.toNat_allOnes,
      Nat.mod_eq_of_lt (by omega)]
    omega
  | case6 s m e hm mantissaBits biased hfits hsubnormal =>
    refine unpack_packComponents_ne_notANumber fun hexponent => absurd hexponent ?_
    simp [Nat.pos_iff_ne_zero.1 spec.he]

/-- Rounding leads to a number or to an infinity. -/
theorem round_ne_notANumber (spec : Format) (s : Sign) (m : ℕ) (e : ℤ) :
    UnpackedFloat.round spec s m e ≠ .notANumber := by
  simp only [UnpackedFloat.round, roundWithAccuracy]
  split <;> exact UnpackedFloat.noConfusion

/-- So does normalizing. -/
theorem normalize_ne_notANumber (spec : Format) (m e : ℤ) (s : Sign) :
    UnpackedFloat.normalize spec m e s ≠ .notANumber := by
  unfold UnpackedFloat.normalize
  split
  · apply round_ne_notANumber
  · exact UnpackedFloat.noConfusion
  · apply round_ne_notANumber

/-- A number less a finite one is a number, though it may be infinite. -/
theorem sub_ne_notANumber (spec : Format) {u v : UnpackedFloat} (hu : u ≠ .notANumber)
    (hv : v.isFinite = true) : UnpackedFloat.sub spec u v ≠ .notANumber := by
  cases v with
  | notANumber => cases hv
  | infinity s => cases hv
  | zero s =>
    cases u with
    | notANumber => exact absurd rfl hu
    | zero t =>
      simp only [UnpackedFloat.sub]
      split <;> exact UnpackedFloat.noConfusion
    | _ => exact UnpackedFloat.noConfusion
  | finite s m e h =>
    cases u with
    | notANumber => exact absurd rfl hu
    | finite t n f h' => apply normalize_ne_notANumber
    | _ => exact UnpackedFloat.noConfusion

end Unpacked

/-- From every number a finite one may be taken away. -/
protected theorem Float.isNaN_sub (hx : x.isNaN = false) (hy : y.isFinite = true) :
    (x - y).isNaN = false := by
  rw [isNaN_eq_false_iff] at hx ⊢
  exact Unpacked.unpack_pack_ne_notANumber _ (Unpacked.sub_ne_notANumber _ hx hy)

end SpriteStage
