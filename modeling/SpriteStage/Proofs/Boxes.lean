import Mathlib
import SpriteStage.Scene
import SpriteStage.Proofs.Layers

/-!
# Boxes and bubbles, cell by cell

The strokes of a box draw a frame, blank it inside and write over some of that. What they leave at a
place is said here without them: a `Box` fills a rectangle and nothing else, with a known character
at each of its places (`Box.lastCell?_strokes`), and a bubble fills a part of one row
(`lastCell?_bubbleStrokes`).
-/

namespace SpriteStage

/-! ## Lines of text -/

namespace Scene

/-- A text leaves its characters in its row, from its first column on. -/
theorem lastCell?_textStrokes (x y : Int) (style : Style) (z : Int) (cs : List Char) (a b : Int) :
    Stroke.lastCell? a b (textStrokes x y style z cs) =
      if b = y ∧ x ≤ a then (cs[(a - x).toNat]?).map fun c => ⟨c, style⟩ else none := by
  induction cs generalizing x with
  | nil => split <;> rfl
  | cons c rest ih =>
    rw [textStrokes, Stroke.lastCell?_cons, ih]
    unfold Stroke.cellAt?
    by_cases hy : b = y
    · rcases lt_trichotomy a x with hlt | rfl | hgt
      · have hleft : ¬ (x = a ∧ y = b) := by omega
        rw [if_neg (by omega), if_neg hleft, if_neg (by omega)]
        rfl
      · rw [if_neg (by omega), if_pos ⟨rfl, hy.symm⟩, if_pos ⟨hy, le_refl a⟩, Int.sub_self]
        rfl
      · have hleft : ¬ (x = a ∧ y = b) := by omega
        have hplace : (a - x).toNat = (a - (x + 1)).toNat + 1 := by omega
        rw [if_pos ⟨hy, by omega⟩, if_neg hleft, if_pos ⟨hy, by omega⟩, Option.or_none, hplace,
          List.getElem?_cons_succ]
    · have hrow : ¬ (x = a ∧ y = b) := fun h => hy h.2.symm
      rw [if_neg fun h => hy h.1, if_neg hrow, if_neg fun h => hy h.1]
      rfl

theorem height_of_mem_textStrokes {x y : Int} {style : Style} {z : Int} {cs : List Char}
    {s : Stroke} (h : s ∈ textStrokes x y style z cs) : s.height = z := by
  induction cs generalizing x with
  | nil => exact absurd h List.not_mem_nil
  | cons c rest ih =>
    rcases List.mem_cons.1 h with rfl | hrest
    · rfl
    · exact ih hrest

end Scene

/-! ## Bubbles -/

namespace Bubble

/-- The characters of a bubble, its ends included. -/
def chars (b : Bubble) : List Char :=
  match b.kind with
  | .say => '<' :: b.message.toList ++ ['>']
  | .think => '(' :: b.message.toList ++ [')']

def style (b : Bubble) : Style :=
  match b.kind with
  | .say => { foreground := some .yellow }
  | .think => { foreground := some .white }

/-- The place is covered by the bubble above a sprite with this corner. A bubble without a message
covers none. -/
def Covers (b : Bubble) (left top x y : Int) : Prop :=
  b.message.isEmpty = false ∧ y = top - 1 ∧ left ≤ x ∧ x < left + b.chars.length

instance (b : Bubble) (left top x y : Int) : Decidable (b.Covers left top x y) :=
  inferInstanceAs (Decidable (_ ∧ _))

/-- What the bubble above a sprite with this corner leaves at a place. -/
def cell? (b : Bubble) (left top x y : Int) : Option Cell :=
  if b.Covers left top x y then (b.chars[(x - left).toNat]?).map fun c => ⟨c, b.style⟩ else none

end Bubble

namespace Scene

/-- A bubble is its text, one row above the sprite, and a bubble without a message is nothing. -/
theorem bubbleStrokes_eq (x y : Int) (b : Bubble) :
    bubbleStrokes x y b =
      if b.message.isEmpty then [] else textStrokes x (y - 1) b.style bubbleHeight b.chars := by
  unfold bubbleStrokes Bubble.style Bubble.chars
  cases b.kind <;> rfl

/-- The strokes of a bubble leave its cells. -/
theorem lastCell?_bubbleStrokes (left top : Int) (b : Bubble) (x y : Int) :
    Stroke.lastCell? x y (bubbleStrokes left top b) = b.cell? left top x y := by
  rw [bubbleStrokes_eq]
  unfold Bubble.cell?
  by_cases hempty : b.message.isEmpty = true
  · rw [if_pos hempty, if_neg]
    · rfl
    · exact fun hcovers => absurd (hempty.symm.trans hcovers.1) (by decide)
  rw [if_neg hempty, lastCell?_textStrokes]
  by_cases hcovers : b.Covers left top x y
  · rw [if_pos hcovers, if_pos ⟨hcovers.2.1, hcovers.2.2.1⟩]
  rw [if_neg hcovers]
  split
  · -- only the end of the bubble is left to miss
    rename_i hstart
    have hend : ¬ x < left + b.chars.length := fun hend =>
      hcovers ⟨Bool.eq_false_of_not_eq_true hempty, hstart.1, hstart.2, hend⟩
    rw [List.getElem?_eq_none (by omega)]
    rfl
  · rfl

theorem height_of_mem_bubbleStrokes {left top : Int} {b : Bubble} {s : Stroke}
    (h : s ∈ bubbleStrokes left top b) : s.height = bubbleHeight := by
  rw [bubbleStrokes_eq] at h
  split at h
  · exact absurd h List.not_mem_nil
  · exact height_of_mem_textStrokes h

end Scene

/-! ## Boxes -/

/-- The box of a sprite. -/
structure Box where
  left : Int
  top : Int
  width : ℕ
  height : ℕ
  style : Style
  heading : Char
  name : String

namespace Box

/-- A box that is too small for a frame. -/
def IsTiny (b : Box) : Prop := b.width < 2 ∨ b.height < 2

instance (b : Box) : Decidable b.IsTiny := inferInstanceAs (Decidable (_ ∨ _))

/-- The place is in the rectangle of the box, which is a single place for a tiny one. -/
def Covers (b : Box) (x y : Int) : Prop :=
  if b.IsTiny then x = b.left ∧ y = b.top
  else b.left ≤ x ∧ x < b.left + b.width ∧ b.top ≤ y ∧ y < b.top + b.height

instance (b : Box) (x y : Int) : Decidable (b.Covers x y) :=
  inferInstanceAs (Decidable (if b.IsTiny then _ else _))

/-- A tiny box covers its corner only. -/
theorem covers_of_isTiny {b : Box} (h : b.IsTiny) {x y : Int} :
    b.Covers x y ↔ x = b.left ∧ y = b.top := by
  unfold Covers
  rw [if_pos h]

/-- Any other box covers a rectangle. -/
theorem covers_of_not_isTiny {b : Box} (h : ¬ b.IsTiny) {x y : Int} :
    b.Covers x y ↔ b.left ≤ x ∧ x < b.left + b.width ∧ b.top ≤ y ∧ y < b.top + b.height := by
  unfold Covers
  rw [if_neg h]

/-- The frame and the blanks inside of it, by column and row. -/
def frameChar (b : Box) (i j : ℕ) : Char :=
  if j = 0 then (Scene.edges b.width i).1
  else if j + 1 = b.height then (Scene.edges b.width i).2
  else if i = 0 ∨ i + 1 = b.width then '│'
  else ' '

/-- The first row of a frame has the characters of the upper edge. -/
theorem frameChar_top (b : Box) (i : ℕ) : b.frameChar i 0 = (Scene.edges b.width i).1 := if_pos rfl

/-- The last row of a frame has those of the lower edge. -/
theorem frameChar_bottom {b : Box} (h : ¬ b.IsTiny) (i : ℕ) :
    b.frameChar i (b.height - 1) = (Scene.edges b.width i).2 := by
  unfold IsTiny at h
  unfold frameChar
  rw [if_neg (by omega), if_pos (by omega)]

/-- Between them the frame is at both sides. -/
theorem frameChar_side {b : Box} {i j : ℕ} (hj : 1 ≤ j) (hj' : j + 1 < b.height)
    (hi : i = 0 ∨ i + 1 = b.width) : b.frameChar i j = '│' := by
  unfold frameChar
  rw [if_neg (by omega), if_neg (by omega), if_pos hi]

/-- Inside of the frame there are blanks. -/
theorem frameChar_inside {b : Box} {i j : ℕ} (hj : 1 ≤ j) (hj' : j + 1 < b.height) (hi : 1 ≤ i)
    (hi' : i + 1 < b.width) : b.frameChar i j = ' ' := by
  unfold frameChar
  rw [if_neg (by omega), if_neg (by omega), if_neg (by omega)]

/-- The heading and as much of the name as fits, by column and row. They are in the first row inside
of the frame, if there is one, and the heading may be on the frame. -/
def labelChar? (b : Box) (i j : ℕ) : Option Char :=
  if b.height = 2 ∨ j ≠ 1 ∨ i = 0 then none
  else (b.heading :: b.name.toList.take (b.width - 3))[i - 1]?

/-- The character of the box at a column and a row of it. -/
def char (b : Box) (i j : ℕ) : Char :=
  if b.IsTiny then b.heading else (b.labelChar? i j).getD (b.frameChar i j)

/-- What the box leaves at a place. -/
def cell? (b : Box) (x y : Int) : Option Cell :=
  if b.Covers x y then some ⟨b.char (x - b.left).toNat (y - b.top).toNat, b.style⟩ else none

/-- The strokes of the box, at some height above the canvas. -/
def strokes (b : Box) (z : Int) : List Stroke :=
  Scene.boxStrokes b.left b.top b.width b.height b.style z b.heading b.name

/-- A stroke within the box, by column and row. -/
def put (b : Box) (z : Int) (i j : ℕ) (c : Char) : Stroke :=
  ⟨b.left + i, b.top + j, ⟨c, b.style⟩, z⟩

/-- The strokes of the frame and of what is inside of it. -/
def base (b : Box) (z : Int) : List Stroke :=
  ((List.range b.width).flatMap fun i =>
      [b.put z i 0 (Scene.edges b.width i).1,
        b.put z i (b.height - 1) (Scene.edges b.width i).2]) ++
    (List.range' 1 (b.height - 2)).flatMap fun j =>
      b.put z 0 j '│' :: b.put z (b.width - 1) j '│' ::
        (List.range' 1 (b.width - 2)).map fun i => b.put z i j ' '

/-- The strokes of the heading and the name. -/
def label (b : Box) (z : Int) : List Stroke :=
  if b.height = 2 then []
  else Scene.textStrokes (b.left + 1) (b.top + 1) b.style z
    (b.heading :: b.name.toList.take (b.width - 3))

/-- All that there is of a tiny box is its heading. -/
theorem strokes_of_isTiny {b : Box} (h : b.IsTiny) (z : Int) :
    b.strokes z = [b.put z 0 0 b.heading] := if_pos h

/-- Any other box has its frame first and its label over that. -/
theorem strokes_of_not_isTiny {b : Box} (h : ¬ b.IsTiny) (z : Int) :
    b.strokes z = b.base z ++ b.label z := by
  have hnext : b.left + 1 + 1 = b.left + 2 := by omega
  unfold label Scene.textStrokes
  rw [hnext]
  exact if_neg h

/-- The base is drawn of the characters of the frame, each at its place, and all of them. -/
theorem mem_base {b : Box} (h : ¬ b.IsTiny) {z : Int} {s : Stroke} :
    s ∈ b.base z ↔ ∃ i < b.width, ∃ j < b.height, s = b.put z i j (b.frameChar i j) := by
  obtain ⟨hwidth, hheight⟩ : 2 ≤ b.width ∧ 2 ≤ b.height := by
    unfold IsTiny at h
    omega
  unfold base
  simp only [List.mem_append, List.mem_flatMap, List.mem_range, List.mem_range'_1, List.mem_cons,
    List.not_mem_nil, or_false, List.mem_map]
  constructor
  · rintro (⟨i, hi, rfl | rfl⟩ | ⟨j, hj, rfl | rfl | ⟨i, hi, rfl⟩⟩)
    · exact ⟨i, hi, 0, by omega, by rw [frameChar_top]⟩
    · exact ⟨i, hi, b.height - 1, by omega, by rw [frameChar_bottom h]⟩
    · exact ⟨0, by omega, j, by omega, by rw [frameChar_side hj.1 (by omega) (Or.inl rfl)]⟩
    · exact ⟨b.width - 1, by omega, j, by omega,
        by rw [frameChar_side hj.1 (by omega) (Or.inr (by omega))]⟩
    · exact ⟨i, by omega, j, by omega, by rw [frameChar_inside hj.1 (by omega) hi.1 (by omega)]⟩
  · rintro ⟨i, hi, j, hj, rfl⟩
    rcases Nat.eq_zero_or_pos j with rfl | hpos
    · exact Or.inl ⟨i, hi, Or.inl (by rw [frameChar_top])⟩
    rcases Nat.lt_or_eq_of_le (Nat.succ_le_of_lt hj) with hinner | hlast
    · refine Or.inr ⟨j, ⟨hpos, by omega⟩, ?_⟩
      rcases Nat.eq_zero_or_pos i with rfl | hpos'
      · exact Or.inl (by rw [frameChar_side hpos hinner (Or.inl rfl)])
      rcases Nat.lt_or_eq_of_le (Nat.succ_le_of_lt hi) with hinner' | hlast'
      · exact Or.inr (Or.inr ⟨i, by omega, by rw [frameChar_inside hpos hinner hpos' hinner']⟩)
      · obtain rfl : i = b.width - 1 := by omega
        exact Or.inr (Or.inl (by rw [frameChar_side hpos hinner (Or.inr hlast')]))
    · obtain rfl : j = b.height - 1 := by omega
      exact Or.inl ⟨i, hi, Or.inr (by rw [frameChar_bottom h])⟩

/-- The frame and its inside leave a character at every place of the box, and nothing elsewhere. -/
theorem lastCell?_base {b : Box} (h : ¬ b.IsTiny) (z x y : Int) :
    Stroke.lastCell? x y (b.base z) =
      if b.Covers x y then
        some ⟨b.frameChar (x - b.left).toNat (y - b.top).toNat, b.style⟩
      else none := by
  split
  · rename_i hin
    rw [covers_of_not_isTiny h] at hin
    apply Stroke.lastCell?_eq_some
    · have hx : b.left + ((x - b.left).toNat : Int) = x := by omega
      have hy : b.top + ((y - b.top).toNat : Int) = y := by omega
      refine ⟨_, (mem_base h).2 ⟨(x - b.left).toNat, ?_, (y - b.top).toNat, ?_, rfl⟩, hx, hy⟩
      · omega
      · omega
    · intro s hs hx hy
      obtain ⟨i, -, j, -, rfl⟩ := (mem_base h).1 hs
      have hx' : b.left + (i : Int) = x := hx
      have hy' : b.top + (j : Int) = y := hy
      have hi : (x - b.left).toNat = i := by omega
      have hj : (y - b.top).toNat = j := by omega
      rw [hi, hj]
      rfl
  · rename_i hout
    rw [covers_of_not_isTiny h] at hout
    refine Stroke.lastCell?_eq_none fun s hs hplace => hout ?_
    obtain ⟨i, hi, j, hj, rfl⟩ := (mem_base h).1 hs
    have hx : b.left + (i : Int) = x := hplace.1
    have hy : b.top + (j : Int) = y := hplace.2
    omega

/-- The heading and the name are inside of the box. -/
theorem lastCell?_label {b : Box} (h : ¬ b.IsTiny) (z x y : Int) :
    Stroke.lastCell? x y (b.label z) =
      if b.Covers x y then
        (b.labelChar? (x - b.left).toNat (y - b.top).toNat).map fun c => ⟨c, b.style⟩
      else none := by
  have htiny := h
  unfold IsTiny at htiny
  unfold label labelChar?
  by_cases hflat : b.height = 2
  · simp only [if_pos hflat, if_pos (Or.inl hflat), Option.map_none, ite_self]
    rfl
  rw [if_neg hflat, Scene.lastCell?_textStrokes]
  by_cases hrow : y = b.top + 1 ∧ b.left + 1 ≤ x
  · rw [if_pos hrow]
    by_cases hin : b.Covers x y
    · have hplace : (x - (b.left + 1)).toNat = (x - b.left).toNat - 1 := by omega
      rw [if_pos hin, if_neg (by omega), hplace]
    · rw [if_neg hin, List.getElem?_eq_none]
      · rfl
      · -- to the right of the box the name has ended
        rw [covers_of_not_isTiny h] at hin
        rw [List.length_cons, List.length_take]
        omega
  · rw [if_neg hrow]
    split
    · rename_i hin
      rw [covers_of_not_isTiny h] at hin
      rw [if_pos (by omega)]
      rfl
    · rfl

/-- **The box, cell by cell.** -/
theorem lastCell?_strokes (b : Box) (z x y : Int) :
    Stroke.lastCell? x y (b.strokes z) = b.cell? x y := by
  by_cases h : b.IsTiny
  · rw [strokes_of_isTiny h, Stroke.lastCell?_singleton]
    unfold cell? char
    simp only [covers_of_isTiny h, if_pos h]
    unfold Stroke.cellAt? put
    simp only [Nat.cast_zero, add_zero, eq_comm]
  · rw [strokes_of_not_isTiny h, Stroke.lastCell?_append, lastCell?_base h, lastCell?_label h]
    unfold cell? char
    rw [if_neg h]
    split
    · cases b.labelChar? (x - b.left).toNat (y - b.top).toNat <;> rfl
    · rfl

theorem height_of_mem_strokes {b : Box} {z : Int} {s : Stroke} (h : s ∈ b.strokes z) :
    s.height = z := by
  by_cases htiny : b.IsTiny
  · rw [strokes_of_isTiny htiny, List.mem_singleton] at h
    rw [h]
    rfl
  · rw [strokes_of_not_isTiny htiny, List.mem_append] at h
    rcases h with hbase | hlabel
    · obtain ⟨i, -, j, -, rfl⟩ := (mem_base htiny).1 hbase
      rfl
    · unfold label at hlabel
      split at hlabel
      · exact absurd hlabel List.not_mem_nil
      · exact Scene.height_of_mem_textStrokes hlabel

end Box

end SpriteStage
