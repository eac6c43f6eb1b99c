import SpriteStage.Proofs.History

/-!
# Agreement and numbers

A look at the program compares sprites by the values of their numbers. Sprites agree if they are the
same up to the signs of their zeros and hold no NaN (`spritesAgree_iff`). So agreement is symmetric
and transitive, and sprites agree with themselves exactly if none of their numbers is a NaN
(`spritesAgree_self_iff_noNaN`). The signs of zeros are nothing to bubbles either
(`cueSheet_unsigned`).
-/

namespace SpriteStage

/-! ## Numbers of equal value -/

/-- The number, but for the sign of a zero. -/
def unsigned (x : Float) : Float := if x == 0.0 then 0.0 else x

theorem isNaN_unsigned (x : Float) : (unsigned x).isNaN = x.isNaN := by
  unfold unsigned
  split
  · rename_i hzero
    have hnumber := (Float.beq_iff_ne_nan_and_eq.1 hzero).1
    rw [Float.isNaN_eq_decide_eq_nan (f := x), decide_eq_false hnumber]
    decide
  · rfl

/-- Both zeros are equal to zero, and nothing else is. -/
theorem beq_zero_iff (x : Float) : (x == 0.0) = true ↔ x = 0 ∨ x = -0 := by
  constructor
  · intro h
    obtain ⟨-, -, rfl | ⟨rfl, -⟩ | ⟨rfl, -⟩⟩ := Float.beq_iff_ne_nan_and_eq.1 h
    · exact Or.inl (by decide)
    · exact Or.inl rfl
    · exact Or.inr rfl
  · rintro (rfl | rfl) <;> decide

/-- Numbers have equal values exactly if they are the same up to the sign of a zero, and no NaN. -/
theorem beq_iff {x y : Float} :
    x.beq y = true ↔ unsigned x = unsigned y ∧ x.isNaN = false := by
  show (x == y) = true ↔ _
  rw [Float.isNaN_eq_decide_eq_nan, decide_eq_false_iff_not]
  constructor
  · intro h
    obtain ⟨hx, -, rfl | ⟨rfl, rfl⟩ | ⟨rfl, rfl⟩⟩ := Float.beq_iff_ne_nan_and_eq.1 h
    · exact ⟨rfl, hx⟩
    · exact ⟨by decide, hx⟩
    · exact ⟨by decide, hx⟩
  · rintro ⟨h, hx⟩
    by_cases hzero : (x == 0.0) = true <;> by_cases hzero' : (y == 0.0) = true
    · rcases (beq_zero_iff x).1 hzero with rfl | rfl <;>
        rcases (beq_zero_iff y).1 hzero' with rfl | rfl <;> decide
    · rw [unsigned, unsigned, if_pos hzero, if_neg hzero'] at h
      rw [← h] at hzero'
      exact absurd (by decide) hzero'
    · rw [unsigned, unsigned, if_neg hzero, if_pos hzero'] at h
      rw [h] at hzero
      exact absurd (by decide) hzero
    · rw [unsigned, unsigned, if_neg hzero, if_neg hzero'] at h
      rw [← h]
      exact Float.beq_self_iff.2 hx

/-! ## The numbers of sprites -/

/-- The numbers that an instruction holds. -/
def Instruction.numbers : Instruction → List Float
  | .move a | .turn a | .changeColor a | .setColor a | .changeSizeBy a | .setSizeTo a => a.toList
  | .goto x y => x.toList ++ y.toList
  | .bubble _ _ seconds => seconds.toList
  | .reveal | .hide | .clearEffects | .forever => []

/-- The numbers that a sprite holds: its home and those of its script. -/
def Sprite.numbers (s : Sprite) : List Float :=
  s.x :: s.y :: s.script.flatMap (·.instruction.numbers)

/-- All numbers of the sprites are numbers. -/
def NoNaN (sprites : List Sprite) : Prop := ∀ s ∈ sprites, ∀ x ∈ s.numbers, x.isNaN = false

/-- The instruction, but for the signs of its zeros. -/
def Instruction.unsigned : Instruction → Instruction
  | .move steps => .move (steps.map SpriteStage.unsigned)
  | .turn degrees => .turn (degrees.map SpriteStage.unsigned)
  | .goto x y => .goto (x.map SpriteStage.unsigned) (y.map SpriteStage.unsigned)
  | .bubble kind message seconds => .bubble kind message (seconds.map SpriteStage.unsigned)
  | .changeColor amount => .changeColor (amount.map SpriteStage.unsigned)
  | .setColor value => .setColor (value.map SpriteStage.unsigned)
  | .changeSizeBy amount => .changeSizeBy (amount.map SpriteStage.unsigned)
  | .setSizeTo value => .setSizeTo (value.map SpriteStage.unsigned)
  | .reveal => .reveal
  | .hide => .hide
  | .clearEffects => .clearEffects
  | .forever => .forever

/-- The script, but for the signs of its zeros. -/
def Script.unsigned (s : Script) : Script := s.map fun b => ⟨b.id, b.instruction.unsigned⟩

/-- The sprite, but for the signs of its zeros. -/
def Sprite.unsigned (s : Sprite) : Sprite :=
  ⟨s.id, s.name, SpriteStage.unsigned s.x, SpriteStage.unsigned s.y, s.script.unsigned⟩

namespace Instruction

theorem numbers_unsigned (i : Instruction) :
    i.unsigned.numbers = i.numbers.map SpriteStage.unsigned := by
  cases i with
  | goto x y => cases x <;> cases y <;> rfl
  | bubble kind message seconds => cases seconds <;> rfl
  | reveal => rfl
  | hide => rfl
  | clearEffects => rfl
  | forever => rfl
  | _ a => cases a <;> rfl

/-- Optional numbers agree if they are the same but for the sign of zeros, and are numbers. -/
theorem numbersAgree_iff (a b : Option Float) :
    numbersAgree a b = true ↔
      a.map SpriteStage.unsigned = b.map SpriteStage.unsigned ∧
        ∀ x ∈ a.toList, x.isNaN = false := by
  cases a <;> cases b <;> simp [numbersAgree, beq_iff]

/-- Instructions agree if they are the same but for the signs of zeros, and have no NaN. -/
theorem agrees_iff (i j : Instruction) :
    i.agrees j = true ↔ i.unsigned = j.unsigned ∧ ∀ x ∈ i.numbers, x.isNaN = false := by
  cases i <;> cases j <;>
    simp only [agrees, unsigned, numbers, numbersAgree_iff, Bool.and_eq_true, decide_eq_true_eq,
      Bool.false_eq_true, reduceCtorEq, false_and, move.injEq, turn.injEq, goto.injEq, bubble.injEq,
      changeColor.injEq, setColor.injEq, changeSizeBy.injEq, setSizeTo.injEq, and_assoc,
      List.forall_mem_append]
  case goto.goto => tauto
  all_goals simp

end Instruction

theorem Script.agrees_iff (s t : Script) :
    Script.agrees s t = true ↔
      s.unsigned = t.unsigned ∧ ∀ x ∈ s.flatMap (·.instruction.numbers), x.isNaN = false := by
  induction s generalizing t with
  | nil => cases t <;> simp [Script.agrees, Script.unsigned]
  | cons a s ih =>
    cases t with
    | nil => simp [Script.agrees, Script.unsigned]
    | cons b t =>
      have hcons : ∀ (b : Block) (s : Script),
          Script.unsigned (b :: s) = ⟨b.id, b.instruction.unsigned⟩ :: Script.unsigned s :=
        fun _ _ => rfl
      rw [Script.agrees, Block.agrees, Bool.and_eq_true, Bool.and_eq_true, decide_eq_true_eq, ih,
        Instruction.agrees_iff, hcons, hcons, List.cons.injEq, Block.mk.injEq, List.flatMap_cons,
        List.forall_mem_append]
      tauto

theorem Sprite.agrees_iff (s t : Sprite) :
    s.agrees t = true ↔ s.unsigned = t.unsigned ∧ ∀ x ∈ s.numbers, x.isNaN = false := by
  rw [Sprite.agrees, Sprite.unsigned, Sprite.unsigned, Sprite.numbers, Sprite.mk.injEq,
    List.forall_mem_cons, List.forall_mem_cons]
  simp only [Bool.and_eq_true, decide_eq_true_eq, beq_iff, Script.agrees_iff]
  tauto

/-- **When sprites agree.** They are the same, but for the signs of their zeros, and no number of
theirs is a NaN. -/
theorem spritesAgree_iff (as bs : List Sprite) :
    spritesAgree as bs = true ↔ as.map Sprite.unsigned = bs.map Sprite.unsigned ∧ NoNaN as := by
  induction as generalizing bs with
  | nil => cases bs <;> simp [spritesAgree, NoNaN]
  | cons a as ih =>
    cases bs with
    | nil => simp [spritesAgree]
    | cons b bs =>
      rw [spritesAgree, Bool.and_eq_true, ih, Sprite.agrees_iff, List.map_cons, List.map_cons,
        List.cons.injEq, NoNaN, NoNaN, List.forall_mem_cons]
      tauto

theorem Sprite.numbers_unsigned (s : Sprite) :
    s.unsigned.numbers = s.numbers.map SpriteStage.unsigned := by
  have hscript : s.script.unsigned.flatMap (·.instruction.numbers) =
      (s.script.flatMap (·.instruction.numbers)).map SpriteStage.unsigned := by
    rw [Script.unsigned, List.flatMap_map, List.map_flatMap]
    congr 1
    funext b
    exact b.instruction.numbers_unsigned
  rw [Sprite.numbers, Sprite.numbers, List.map_cons, List.map_cons, ← hscript]
  rfl

/-- The sign of a zero does not make it a NaN. -/
theorem noNaN_unsigned (sprites : List Sprite) :
    NoNaN (sprites.map Sprite.unsigned) ↔ NoNaN sprites := by
  simp only [NoNaN, List.forall_mem_map, Sprite.numbers_unsigned, isNaN_unsigned]

/-- **Sprites without a NaN agree with themselves**, and no others do. -/
theorem spritesAgree_self_iff_noNaN {sprites : List Sprite} :
    spritesAgree sprites sprites = true ↔ NoNaN sprites := by
  rw [spritesAgree_iff]
  simp

/-- A look does not tell sprites apart that are the same but for the signs of their zeros. -/
theorem spritesAgree_congr {as bs : List Sprite}
    (h : as.map Sprite.unsigned = bs.map Sprite.unsigned) (sprites : List Sprite) :
    spritesAgree as sprites = spritesAgree bs sprites := by
  rw [Bool.eq_iff_iff, spritesAgree_iff, spritesAgree_iff, ← noNaN_unsigned as, h, noNaN_unsigned]

/-- Sprites that agree with any others agree with themselves. -/
theorem spritesAgree_self_of_spritesAgree {as bs : List Sprite} (h : spritesAgree as bs = true) :
    spritesAgree bs bs = true := by
  rwa [spritesAgree_congr ((spritesAgree_iff as bs).1 h).1] at h

/-- What was seen last is what there is to see, but for the signs of zeros. -/
theorem Playback.unsigned_seen_sync (p : Playback) (sprites : List Sprite) :
    (p.sync sprites).seen.map Sprite.unsigned = sprites.map Sprite.unsigned := by
  apply sync_cases (P := fun q => q.seen.map Sprite.unsigned = sprites.map Sprite.unsigned)
  · intro hagree
    exact ((spritesAgree_iff _ _).1 hagree).1
  · intro _
    rfl
  · intro session schedule _
    rfl

/-! ## Bubbles -/

/-- The sign of a zero does not change how long a bubble stays. -/
theorem bubbleLength_unsigned (default : Float) (seconds : Option Float) :
    bubbleLength default (seconds.map unsigned) = bubbleLength default seconds := by
  cases seconds with
  | none => rfl
  | some s =>
    unfold bubbleLength unsigned
    by_cases hzero : (s == 0.0) = true
    · simp only [Option.map_some, hzero, if_true, Bool.true_or]
      rfl
    · rw [Option.map_some, if_neg hzero]

/-- The signs of zeros do not change the cues of a script. -/
theorem Script.cues_unsigned (sprite : SpriteId) (default : Float) (start : Duration)
    (s : Script) : Script.cues sprite default start s.unsigned =
      Script.cues sprite default start s := by
  induction s generalizing start with
  | nil => rfl
  | cons b rest ih =>
    obtain ⟨id, i⟩ := b
    cases i with
    | bubble kind message seconds =>
      show Script.cues sprite default start (⟨id, .bubble kind message (seconds.map _)⟩ ::
        Script.unsigned rest) = _
      rw [Script.cues, Script.cues, bubbleLength_unsigned, ih]
    | _ => exact ih start

/-- The signs of zeros are nothing to bubbles. -/
theorem cueSheet_unsigned (sprites : List Sprite) (default : Float) :
    cueSheet (sprites.map Sprite.unsigned) default = cueSheet sprites default := by
  unfold cueSheet
  rw [List.flatMap_map]
  congr 1
  funext s
  exact Script.cues_unsigned _ _ _ _

end SpriteStage
