import Mathlib
import SpriteStage.Stage

/-!
# Distances

Two positions are compared by the distances of their coordinates. These do not depend on which of
the two comes first (`distance_comm`), so closeness is symmetric (`Position.isClose_comm`), and what
is no number is at no distance below anything, so a position with a NaN is close to nothing
(`Position.not_hasNaN_of_isClose`).

All of this is read off the unpacked form of doubles, where a difference the other way round has the
other sign, or is zero both ways.
-/

namespace SpriteStage

open Float.Model (Format UnpackedFloat)

/-! ## Signs of unpacked numbers -/

namespace Unpacked

open Float.Model.UnpackedFloat

/-- Without its sign bit a double unpacks to the absolute value. -/
theorem unpack_packComponents_abs (spec : Format) (s : Sign) (e : BitVec spec.exponentBits)
    (m : BitVec spec.mantissaBitsWithoutImplicit) :
    unpack spec (packComponents spec .positive e m) =
      (unpack spec (packComponents spec s e m)).abs := by
  unfold unpack
  simp only [unpackSign_packComponents, unpackExponent_packComponents,
    unpackMantissa_packComponents, Sign.ofBitVec_toBitVec]
  split
  · split <;> rfl
  · split
    · split <;> rfl
    · rfl

/-- The sign is packed beside the rest, so it may be dropped before or after. -/
theorem unpack_pack_abs (spec : Format) (u : UnpackedFloat) :
    unpack spec (pack spec u.abs) = (unpack spec (pack spec u)).abs := by
  cases u with
  | notANumber =>
    show unpack spec (packedNaN spec) = (unpack spec (packedNaN spec)).abs
    rw [unpack_packedNaN]
    rfl
  | infinity s => exact unpack_packComponents_abs ..
  | zero s => exact unpack_packComponents_abs ..
  | finite s m e h =>
    simp only [UnpackedFloat.abs, pack]
    split
    · exact unpack_packComponents_abs ..
    · split
      · exact unpack_packComponents_abs ..
      · exact unpack_packComponents_abs ..

/-- The sign has no part in rounding. -/
theorem abs_round (spec : Format) (s : Sign) (m : ℕ) (e : ℤ) :
    (UnpackedFloat.round spec s m e).abs = UnpackedFloat.round spec .positive m e := by
  simp only [UnpackedFloat.round, roundWithAccuracy]
  split <;> rfl

/-- Rounding looks at the sign last. -/
theorem abs_normalize_neg (spec : Format) (m e : ℤ) (s : Sign) :
    (UnpackedFloat.normalize spec (-m) e s).abs = (UnpackedFloat.normalize spec m e s).abs := by
  unfold UnpackedFloat.normalize
  rcases Int.lt_trichotomy m 0 with h | rfl | h
  · have hlt : compare m 0 = .lt := compare_lt_iff_lt.2 h
    have hgt : compare (-m) 0 = .gt := compare_gt_iff_gt.2 (by omega)
    rw [hlt, hgt, abs_round, abs_round]
  · rfl
  · have hgt : compare m 0 = .gt := compare_gt_iff_gt.2 h
    have hlt : compare (-m) 0 = .lt := compare_lt_iff_lt.2 (by omega)
    rw [hlt, hgt, abs_round, abs_round, Int.neg_neg]

/-- A difference taken the other way round has the same absolute value. -/
theorem abs_sub_comm (spec : Format) (u v : UnpackedFloat) :
    (UnpackedFloat.sub spec u v).abs = (UnpackedFloat.sub spec v u).abs := by
  cases u with
  | notANumber => cases v <;> rfl
  | infinity s =>
    cases v with
    | infinity t => cases s <;> cases t <;> rfl
    | _ => rfl
  | zero s =>
    cases v with
    | zero t => cases s <;> cases t <;> rfl
    | _ => rfl
  | finite s m e h =>
    cases v with
    | finite t n f h' =>
      simp only [UnpackedFloat.sub]
      rw [← abs_normalize_neg, Int.neg_sub, min_comm]
    | _ => rfl

end Unpacked

/-! ## Distances of numbers -/

/-- The unpacked form of a number. -/
def unpacked (x : Float) : UnpackedFloat := x.toModel.unpack

theorem pack_unpacked (x : Float) :
    UnpackedFloat.pack .binary64 (unpacked x) = x.toModel.toBits.toBitVec :=
  Float.Model.UnpackedFloat.pack_unpack_of_valid x.toModel.valid

/-- The absolute value of a double is that of what it unpacks to. -/
theorem unpacked_abs (x : Float) : unpacked x.abs = (unpacked x).abs := by
  show UnpackedFloat.unpack .binary64 (UnpackedFloat.pack .binary64 (unpacked x).abs) = _
  rw [Unpacked.unpack_pack_abs, pack_unpacked]
  rfl

/-- Doubles are known by what they unpack to. -/
theorem unpacked_inj {x y : Float} : unpacked x = unpacked y ↔ x = y := by
  refine ⟨fun h => ?_, fun h => h ▸ rfl⟩
  have hbits := (UnpackedFloat.unpack_inj_of_valid x.toModel.valid y.toModel.valid).1 h
  obtain ⟨⟨⟨b⟩, hb⟩⟩ := x
  obtain ⟨⟨⟨c⟩, hc⟩⟩ := y
  cases hbits
  rfl

/-- The absolute value of a difference is rounded from that of the exact one. -/
theorem unpacked_sub_abs (x y : Float) :
    (unpacked (x - y)).abs = UnpackedFloat.unpack .binary64
      (UnpackedFloat.pack .binary64 (UnpackedFloat.sub .binary64 (unpacked x) (unpacked y)).abs) :=
  (Unpacked.unpack_pack_abs _ _).symm

/-- **A distance is the same both ways.** -/
theorem distance_comm (x y : Float) : (x - y).abs = (y - x).abs := by
  rw [← unpacked_inj, unpacked_abs, unpacked_abs, unpacked_sub_abs, unpacked_sub_abs,
    Unpacked.abs_sub_comm]

theorem lt_iff_unpacked {x y : Float} : x < y ↔ (unpacked x).lt (unpacked y) = true :=
  decide_eq_true_iff

/-- Below zero the sign is dropped by turning it round. -/
theorem neg_eq_abs {x : Float} (h : x < 0.0) : -x = x.abs := by
  have hsign : (unpacked x).neg = (unpacked x).abs := by
    have hlt : (unpacked x).lt (.zero .positive) = true := lt_iff_unpacked.1 h
    generalize unpacked x = u at hlt ⊢
    cases u with
    | notANumber => rfl
    | infinity s => cases s with
      | negative => rfl
      | positive => cases hlt
    | zero s => cases hlt
    | finite s m e hm => cases s with
      | negative => rfl
      | positive => cases hlt
  exact congrArg (fun u => Float.ofModel (.pack u)) hsign

/-- A number is below the same bounds, whatever the sign of zero. -/
theorem abs_lt_iff {x d : Float} (h : ¬ x < 0.0) : x.abs < d ↔ x < d := by
  have hnot : ¬ (unpacked x).lt (.zero .positive) = true := fun hlt => h (lt_iff_unpacked.2 hlt)
  rw [lt_iff_unpacked, lt_iff_unpacked, unpacked_abs]
  generalize unpacked x = u at hnot ⊢
  cases u with
  | notANumber => rfl
  | infinity s => cases s with
    | negative => exact absurd rfl hnot
    | positive => rfl
  | zero s => cases unpacked d with
    | infinity t => cases t <;> rfl
    | finite t m e hm => cases t <;> rfl
    | _ => rfl
  | finite s m e hm => cases s with
    | negative => exact absurd rfl hnot
    | positive => rfl

theorem magnitude_lt_iff (x d : Float) : magnitude x < d ↔ x.abs < d := by
  unfold magnitude
  split
  · rename_i hneg
    rw [neg_eq_abs hneg]
  · rename_i hnot
    exact (abs_lt_iff hnot).symm

/-- What is no number is at no distance below anything. -/
theorem isNaN_of_distance_lt {x y d : Float} (h : (x - y).abs < d) : x.isNaN = false := by
  rw [Float.isNaN_eq_decide_eq_nan, decide_eq_false_iff_not]
  rintro rfl
  have hnan : unpacked Float.nan = .notANumber := rfl
  have hsub : UnpackedFloat.sub .binary64 .notANumber (unpacked y) = .notANumber := by
    cases unpacked y <;> rfl
  rw [lt_iff_unpacked, unpacked_abs, unpacked_sub_abs, hnan, hsub] at h
  cases h

/-! ## Close positions -/

namespace Position

/-- Positions are close if both absolute differences are below the distance. -/
theorem isClose_iff {p q : Position} {distance : Float} :
    p.isClose q distance = true ↔
      (p.x - q.x).abs < distance ∧ (p.y - q.y).abs < distance := by
  unfold isClose
  rw [Bool.and_eq_true, decide_eq_true_iff, decide_eq_true_iff, magnitude_lt_iff, magnitude_lt_iff]

/-- **Closeness is symmetric.** -/
theorem isClose_comm (p q : Position) (distance : Float) :
    p.isClose q distance = q.isClose p distance := by
  rw [Bool.eq_iff_iff, isClose_iff, isClose_iff, distance_comm p.x, distance_comm p.y]

/-- One of the coordinates is no number. -/
def HasNaN (p : Position) : Prop := p.x.isNaN = true ∨ p.y.isNaN = true

/-- A position that is close to one has a place itself. -/
theorem not_hasNaN_of_isClose {p q : Position} {distance : Float}
    (h : p.isClose q distance = true) : ¬ p.HasNaN := by
  obtain ⟨hx, hy⟩ := isClose_iff.1 h
  rintro (hnan | hnan)
  · rw [isNaN_of_distance_lt hx] at hnan
    cases hnan
  · rw [isNaN_of_distance_lt hy] at hnan
    cases hnan

end Position

end SpriteStage
