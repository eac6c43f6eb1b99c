import SpriteStage.Proofs.Seconds
import SpriteStage.Studio.Basic

/-!
# The value keys and the time that a bubble stays

A value key steps the seconds of a bubble by one, from 2 if there are none and never below zero. The
time that the bubble stays follows the key as long as the seconds stand for themselves
(`value_keys_move_bubbles`). They do not where they are absent or zero: then the default is planned,
while the key counts from 2 or from 0. So a bubble of one second stays longer after it is stepped
down, if the default is longer (`value_keys_pass_zero`).

The steps are sums of doubles, and all that is used of them is on which side of zero, of one and of
the number itself they lie.
-/

namespace SpriteStage

/-! ## Stepping -/

namespace Instruction

/-- The instruction after the key that steps its main number in a direction. -/
def nudged (direction : Float) (i : Instruction) : Instruction :=
  match i.nudge? direction with
  | some patch => i.patched patch
  | none => i

/-- The seconds of a bubble after a step. -/
def stepped (direction : Float) (seconds : Option Float) : Float :=
  greatest (seconds.getD usualSeconds + direction) 0.0

/-- Of a bubble a key steps the seconds and leaves the rest. -/
theorem nudged_bubble (direction : Float) (kind : BubbleKind) (message : Option String)
    (seconds : Option Float) : (bubble kind message seconds).nudged direction =
      bubble kind message (some (stepped direction seconds)) := rfl

end Instruction

/-! ## The plan of one bubble -/

/-- How long the bubble of a sprite stays that says one thing: from the time at which it is shown to
the time at which it is hidden. -/
def Sprite.plannedLength (s : Sprite) (default : Float) : Duration :=
  match s.cues default with
  | [shown, hidden] => hidden.time - shown.time
  | _ => .zero

/-- A bubble that is all that a script says is shown at once and hidden after its seconds. -/
theorem Sprite.cues_bubble (s : Sprite) (id : BlockId) (default : Float) (kind : BubbleKind)
    (message : Option String) (seconds : Option Float) :
    ({ s with script := [⟨id, .bubble kind message seconds⟩] } : Sprite).cues default =
      [⟨.zero, s.id, some ⟨kind, message.getD ""⟩⟩,
        ⟨.zero + speechLength default seconds, s.id, none⟩] := Sprite.cues_eq _ _

/-- A bubble that is all that a script says stays for its seconds. -/
theorem Sprite.plannedLength_bubble (s : Sprite) (id : BlockId) (default : Float)
    (kind : BubbleKind) (message : Option String) (seconds : Option Float) :
    ({ s with script := [⟨id, .bubble kind message seconds⟩] } : Sprite).plannedLength default =
      speechLength default seconds := by
  rw [plannedLength, cues_bubble]
  apply Duration.eq_of_nanos
  have hrange := (speechLength default seconds).inRange
  show (Duration.zero + speechLength default seconds).nanos - 0 = _
  rw [Duration.nanos_add]
  show min (0 + _) _ - 0 = _
  omega

/-! ## How long some seconds are -/

/-- The time of a positive number of seconds. More than the range is the longest time. -/
def timeOf (x : Float) : Duration := (Duration.ofSeconds? x).getD .longest

/-- More seconds are no less time. -/
theorem timeOf_le {x y : Float} (hx : x.isFinite = true) (hpos : 0.0 < x) (h : x ≤ y) :
    timeOf x ≤ timeOf y := Duration.ofSeconds?_le hx (Float.le_of_lt hpos) h

section

variable {x : Float} (default : Float)

/-- Seconds that are a number other than zero stand for themselves. -/
theorem secondsOr_some (hnumber : x.isNaN = false) (h : rank x ≠ rank 0.0) :
    secondsOr default (some x) = x := by
  have hzero : (x == 0.0) = false := by
    rw [← Bool.not_eq_true, beq_iff_rank]
    exact fun heq => h heq.2
  rw [secondsOr, hzero, hnumber]
  rfl

/-- Positive seconds are the time that they say. -/
theorem speechLength_of_pos (h : 0.0 < x) : speechLength default (some x) = timeOf x := by
  obtain ⟨⟨-, hnumber⟩, hlt⟩ := lt_iff_rank.1 h
  rw [speechLength, secondsOr_some default hnumber hlt.ne', if_pos h]
  rfl

/-- Less than zero is no time at all. -/
theorem speechLength_of_neg (h : x < 0.0) : speechLength default (some x) = .zero := by
  obtain ⟨⟨hnumber, -⟩, hlt⟩ := lt_iff_rank.1 h
  have hneg : ¬ 0.0 < x := fun hpos => hlt.not_gt (lt_iff_rank.1 hpos).2
  rw [speechLength, secondsOr_some default hnumber hlt.ne, if_neg hneg]

/-- Zero stands for the default, as absent seconds do. -/
theorem speechLength_of_zero (h : (x == 0.0) = true) :
    speechLength default (some x) = speechLength default none := by
  have hseconds : secondsOr default (some x) = secondsOr default none :=
    if_pos (by rw [h, Bool.true_or])
  rw [speechLength, hseconds, speechLength]

/-- Seconds that are not let below zero stand for themselves if they are positive. -/
theorem speechLength_greatest_of_pos (h : 0.0 < x) :
    speechLength default (some (greatest x 0.0)) = timeOf x := by
  rw [greatest, if_neg (by decide), if_pos h, speechLength_of_pos default h]

/-- If not, they are zero, which stands for the default. -/
theorem speechLength_greatest_of_not_pos (h : ¬ 0.0 < x) :
    speechLength default (some (greatest x 0.0)) = speechLength default none := by
  rw [greatest, if_neg (by decide), if_neg h, speechLength_of_zero default (by decide)]

end

/-! ## Sums with one -/

section

variable {x : Float}

protected theorem Float.lt_or_beq_or_lt (hx : x.isFinite = true) :
    x < 0.0 ∨ (x == 0.0) = true ∨ 0.0 < x := by
  rw [Float.beq_iff_le_and_le, lt_iff_units hx (by rfl), lt_iff_units (by rfl) hx,
    le_iff_units hx (by rfl), le_iff_units (by rfl) hx]
  omega

/-- Rounding does not take back what is added. -/
protected theorem Float.le_add_one (hx : x.isFinite = true) : x ≤ x + 1.0 := by
  refine le_add_of_units hx (by rfl) hx ?_
  have hpos : 0 ≤ units 1.0 := by decide
  omega

/-- Next to zero the sum is one, whichever zero it is. -/
protected theorem Float.zero_add_one (hx : (x == 0.0) = true) : x + 1.0 ≤ 1.0 ∧ 1.0 ≤ x + 1.0 := by
  obtain ⟨hle, hge⟩ := Float.beq_iff_le_and_le.1 hx
  have hfinite : x.isFinite = true := isFinite_of_le (by rfl) (by rfl) hge hle
  have hx0 : units x ≤ 0 := (le_iff_units hfinite (by rfl)).1 hle
  have h0x : 0 ≤ units x := (le_iff_units (by rfl) hfinite).1 hge
  exact ⟨add_le_of_units hfinite (by rfl) (by rfl) (by omega),
    le_add_of_units hfinite (by rfl) (by rfl) (by omega)⟩

/-- The least double above zero. -/
def leastPositive : Float := Float.ofBits 1

theorem units_leastPositive : units leastPositive = 1 := by decide +kernel

theorem units_neg_one : units (-1.0) = -units 1.0 := by decide +kernel

/-- Rounding does not bring back what is taken away. -/
protected theorem Float.sub_one_le (hx : x.isFinite = true) : x + -1.0 ≤ x := by
  refine add_le_of_units hx (by rfl) hx ?_
  have hneg : units (-1.0) ≤ units 0.0 := (le_iff_units (by rfl) (by rfl)).1 (by decide)
  have hzero : units 0.0 = 0 := by rfl
  omega

/-- However little a number is above one, the difference is not rounded to zero. -/
protected theorem Float.sub_one_pos (hx : x.isFinite = true) (h : 1.0 < x) : 0.0 < x + -1.0 := by
  have hlt := (lt_iff_units (by rfl) hx).1 h
  have hle : leastPositive ≤ x + -1.0 := by
    refine le_add_of_units hx (by rfl) (by rfl) ?_
    rw [units_leastPositive, units_neg_one]
    omega
  exact Float.lt_of_lt_of_le (by decide) hle

/-- From one or less nothing positive is left. -/
protected theorem Float.sub_one_not_pos (hx : x.isFinite = true) (h : x ≤ 1.0) :
    ¬ 0.0 < x + -1.0 := by
  rw [Float.not_lt (by rfl) (isNaN_add hx (by rfl))]
  refine add_le_of_units hx (by rfl) (by rfl) ?_
  have hle := (le_iff_units hx (by rfl)).1 h
  rw [units_neg_one]
  show _ ≤ 0
  omega

end

/-! ## Steps up and down -/

section

open Instruction (stepped)

variable (default : Float) {x : Float}

/-- One second more is no shorter a time, but for zero. -/
theorem speechLength_le_stepped_up (hx : x.isFinite = true) (h : (x == 0.0) = false) :
    speechLength default (some x) ≤ speechLength default (some (stepped 1.0 (some x))) := by
  rcases Float.lt_or_beq_or_lt hx with hneg | hzero | hpos
  · rw [speechLength_of_neg default hneg]
    exact Nat.zero_le _
  · rw [hzero] at h
    cases h
  · have hup := Float.le_add_one hx
    rw [stepped, Option.getD_some, speechLength_of_pos default hpos,
      speechLength_greatest_of_pos default (Float.lt_of_lt_of_le hpos hup)]
    exact timeOf_le hx hpos hup

/-- From zero a step up leads to one second. -/
theorem speechLength_stepped_up_of_zero (h : (x == 0.0) = true) :
    speechLength default (some (stepped 1.0 (some x))) = .ofMillis 1000 := by
  obtain ⟨hle, hge⟩ := Float.zero_add_one h
  have hfinite : (x + 1.0).isFinite = true := isFinite_of_le (by rfl) (by rfl) hge hle
  have hpos : 0.0 < x + 1.0 := Float.lt_of_lt_of_le (by decide) hge
  have hone : timeOf 1.0 = .ofMillis 1000 := by decide
  rw [stepped, Option.getD_some, speechLength_greatest_of_pos default hpos, ← hone]
  exact Duration.eq_of_nanos (le_antisymm (timeOf_le hfinite hpos hle)
    (timeOf_le (by rfl) (by decide) hge))

/-- One second less is no longer a time, if any seconds are left. -/
theorem speechLength_stepped_down_le (hx : x.isFinite = true) (h : 1.0 < x) :
    speechLength default (some (stepped (-1.0) (some x))) ≤ speechLength default (some x) := by
  have hpos := Float.sub_one_pos hx h
  have hdown := Float.sub_one_le hx
  have hfinite : (x + -1.0).isFinite = true :=
    isFinite_of_le (by rfl) hx (Float.le_of_lt hpos) hdown
  rw [stepped, Option.getD_some, speechLength_greatest_of_pos default hpos,
    speechLength_of_pos default (Float.lt_of_lt_of_le hpos hdown)]
  exact timeOf_le hfinite hpos hdown

/-- If none are left, a step down leads to the default. -/
theorem speechLength_stepped_down_eq (hx : x.isFinite = true) (h : x ≤ 1.0) :
    speechLength default (some (stepped (-1.0) (some x))) = speechLength default none := by
  rw [stepped, Option.getD_some,
    speechLength_greatest_of_not_pos default (Float.sub_one_not_pos hx h)]

/-- From absent seconds the steps lead to three seconds and to one. -/
theorem speechLength_stepped_none :
    speechLength default (some (stepped 1.0 none)) = .ofMillis 3000 ∧
      speechLength default (some (stepped (-1.0) none)) = .ofMillis 1000 := by
  constructor
  · rw [stepped, speechLength_greatest_of_pos default (by decide)]
    decide
  · rw [stepped, speechLength_greatest_of_pos default (by decide)]
    decide

end

/-- **The time that a bubble stays follows the value keys while its seconds stand for themselves.**
The bubble is all that a script says. With finite seconds of its own it stays no shorter a time
after a step up, unless they were zero: then it stayed for the default, and stays for one second.
After a step down it stays no longer, unless its seconds are brought to zero by it: then it stays
for the default. Absent seconds are planned as the default too, but are stepped to three seconds or
to one whatever the default is. So from them a step up makes the time no shorter exactly if the
default is three seconds at most, and a step down no longer exactly if it is one second at least. -/
theorem value_keys_move_bubbles (s : Sprite) (id : BlockId) (default : Float) (kind : BubbleKind)
    (message : Option String) :
    let planned (i : Instruction) : Duration :=
      ({ s with script := [⟨id, i⟩] } : Sprite).plannedLength default
    let absent : Instruction := .bubble kind message none
    (planned absent ≤ planned (absent.nudged 1.0) ↔ planned absent ≤ .ofMillis 3000) ∧
    (planned (absent.nudged (-1.0)) ≤ planned absent ↔ .ofMillis 1000 ≤ planned absent) ∧
    ∀ x : Float, x.isFinite = true →
      let given : Instruction := .bubble kind message (some x)
      ((x == 0.0) = false → planned given ≤ planned (given.nudged 1.0)) ∧
      ((x == 0.0) = true →
        (planned given ≤ planned (given.nudged 1.0) ↔ planned absent ≤ .ofMillis 1000)) ∧
      (1.0 < x ∨ (x == 0.0) = true → planned (given.nudged (-1.0)) ≤ planned given) ∧
      (x ≤ 1.0 → planned (given.nudged (-1.0)) = planned absent) := by
  have hplanned (seconds : Option Float) :
      ({ s with script := [⟨id, .bubble kind message seconds⟩] } : Sprite).plannedLength default =
        speechLength default seconds := s.plannedLength_bubble id default kind message seconds
  obtain ⟨hup, hdown⟩ := speechLength_stepped_none default
  simp only [Instruction.nudged_bubble, hplanned, hup, hdown]
  -- from absent seconds the two sides of each condition are now the same
  refine ⟨trivial, trivial, fun x hx => ⟨speechLength_le_stepped_up default hx,
    fun hzero => ?_, ?_, speechLength_stepped_down_eq default hx⟩⟩
  · rw [speechLength_stepped_up_of_zero default hzero, speechLength_of_zero default hzero]
  · rintro (hone | hzero)
    · exact speechLength_stepped_down_le default hx hone
    · have hone : x ≤ 1.0 :=
        Float.le_trans (Float.beq_iff_le_and_le.1 hzero).1 (by decide)
      rw [speechLength_stepped_down_eq default hx hone, speechLength_of_zero default hzero]
      exact Nat.le_refl _

/-- "Hello" without seconds, for one and a half, and for none, where the default is two seconds. -/
theorem value_keys_move_bubbles_hello :
    let planned (i : Instruction) : Duration :=
      ({ id := ⟨1⟩, name := "Cat 1", x := 50.0, y := 50.0, script := [⟨⟨1⟩, i⟩] } :
        Sprite).plannedLength 2.0
    let hello (seconds : Option Float) : Instruction := .bubble .say (some "Hello") seconds
    (planned (hello none) ≤ planned ((hello none).nudged 1.0) ∧
      planned ((hello none).nudged (-1.0)) ≤ planned (hello none)) ∧
    (planned (hello (some 1.5)) ≤ planned ((hello (some 1.5)).nudged 1.0) ∧
      planned ((hello (some 1.5)).nudged (-1.0)) ≤ planned (hello (some 1.5))) ∧
    ¬ planned (hello (some 0.0)) ≤ planned ((hello (some 0.0)).nudged 1.0) ∧
    planned ((hello (some 0.0)).nudged (-1.0)) ≤ planned (hello (some 0.0)) ∧
    planned ((hello (some 0.0)).nudged (-1.0)) = planned (hello none) := by
  intro planned hello
  obtain ⟨hup, hdown, hgiven⟩ := value_keys_move_bubbles
    { id := ⟨1⟩, name := "Cat 1", x := 50.0, y := 50.0, script := [] } ⟨1⟩ 2.0 .say (some "Hello")
  obtain ⟨hlonger, -, hshorter, -⟩ := hgiven 1.5 (by rfl)
  obtain ⟨-, hzero, hunder, hdefault⟩ := hgiven 0.0 (by rfl)
  exact ⟨⟨hup.2 (by decide), hdown.2 (by decide)⟩,
    ⟨hlonger (by decide), hshorter (Or.inl (by decide))⟩,
    fun h => absurd ((hzero (by decide)).1 h) (by decide),
    hunder (Or.inr (by decide)), hdefault (by decide)⟩

/-- **The time does not follow the keys to zero.** With a default of two seconds a bubble of one
second is stepped down to the default. -/
theorem value_keys_pass_zero :
    ¬ ∀ (s : Sprite) (id : BlockId) (default : Float) (kind : BubbleKind)
      (message : Option String) (seconds : Option Float),
      default.isFinite = true → 0.0 ≤ default → (∀ x ∈ seconds, x.isFinite = true) →
      let planned (i : Instruction) : Duration :=
        ({ s with script := [⟨id, i⟩] } : Sprite).plannedLength default
      let bubble : Instruction := .bubble kind message seconds
      planned bubble ≤ planned (bubble.nudged 1.0) ∧
        planned (bubble.nudged (-1.0)) ≤ planned bubble := by
  intro hfollows
  have hseconds : ∀ x ∈ some (1.0 : Float), x.isFinite = true := by
    intro x hx
    rw [← Option.some.inj hx]
    rfl
  obtain ⟨-, hdown⟩ := hfollows
    { id := ⟨1⟩, name := "Cat 1", x := 50.0, y := 50.0, script := [] } ⟨1⟩ 2.0 .say (some "Hello")
    (some 1.0) (by rfl) (by decide) hseconds
  exact absurd hdown (by decide +kernel)

end SpriteStage
