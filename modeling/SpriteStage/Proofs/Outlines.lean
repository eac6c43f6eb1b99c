import Mathlib
import SpriteStage.Proofs.Painter

/-!
# The outline of a box

On a canvas without bounds, the strokes of a sprite leave its box: a frame along the edges of a
rectangle, the heading and the name in the first row inside of it, blanks in the rest of it, and
nothing around it (`Scene.sprite_outline`).
-/

namespace SpriteStage

/-! ## A canvas without bounds -/

/-- A canvas without bounds, each of its places painted or not. -/
abbrev Canvas := Int → Int → Option Cell

namespace Stroke

/-- The canvas after one more stroke. -/
def onto (canvas : Canvas) (s : Stroke) : Canvas := fun x y =>
  if x = s.x ∧ y = s.y then some s.cell else canvas x y

/-- The canvas after the strokes, one after the other, that was empty before. -/
def canvas (strokes : List Stroke) : Canvas := strokes.foldl onto fun _ _ => none

/-- The places at which something was painted. -/
def painted (canvas : Canvas) : Set (Int × Int) := {place | (canvas place.1 place.2).isSome}

theorem onto_eq (canvas : Canvas) (s : Stroke) (x y : Int) :
    onto canvas s x y = (s.cellAt? x y).or (canvas x y) := by
  unfold onto cellAt?
  simp only [eq_comm (a := x), eq_comm (a := y)]
  split <;> rfl

/-- Strokes cover what was there by the last one at each place. -/
theorem foldl_onto (strokes : List Stroke) (canvas : Canvas) (x y : Int) :
    strokes.foldl onto canvas x y = (lastCell? x y strokes).or (canvas x y) := by
  induction strokes generalizing canvas with
  | nil => rfl
  | cons s rest ih => rw [List.foldl_cons, ih, onto_eq, lastCell?_cons, Option.or_assoc]

/-- A place shows the last stroke there. -/
theorem canvas_eq (strokes : List Stroke) (x y : Int) :
    canvas strokes x y = lastCell? x y strokes := by
  rw [canvas, foldl_onto, Option.or_none]

end Stroke

/-! ## What a box shows -/

namespace Box

variable {b : Box} {i j : ℕ}

/-- The canvas shows a character in the style of the box, at a column and a row of the box. -/
def Shows (b : Box) (canvas : Canvas) (i j : ℕ) (c : Char) : Prop :=
  canvas (b.left + i) (b.top + j) = some ⟨c, b.style⟩

/-- The canvas shows a box with its frame, and nothing else. -/
structure IsFramedOn (b : Box) (canvas : Canvas) : Prop where
  /-- The rectangle is painted, and nothing around it. -/
  places : Stroke.painted canvas =
    Set.Ico b.left (b.left + b.width) ×ˢ Set.Ico b.top (b.top + b.height)
  topCorners : b.Shows canvas 0 0 '┌' ∧ b.Shows canvas (b.width - 1) 0 '┐'
  bottomCorners : b.Shows canvas 0 (b.height - 1) '└' ∧
    b.Shows canvas (b.width - 1) (b.height - 1) '┘'
  horizontal : ∀ i, 1 ≤ i → i + 1 < b.width →
    b.Shows canvas i 0 '─' ∧ b.Shows canvas i (b.height - 1) '─'
  vertical : ∀ j, 1 ≤ j → j + 1 < b.height →
    b.Shows canvas 0 j '│' ∧ b.Shows canvas (b.width - 1) j '│'
  heading : 2 < b.height → b.Shows canvas 1 1 b.heading
  /-- The name begins beside the heading and goes as far as there is room. -/
  name : 2 < b.height → ∀ n c, n < b.width - 3 → b.name.toList[n]? = some c →
    b.Shows canvas (2 + n) 1 c
  afterName : 2 < b.height → ∀ n, min b.name.toList.length (b.width - 3) ≤ n → 2 + n + 1 < b.width →
    b.Shows canvas (2 + n) 1 ' '
  inside : ∀ i j, 1 ≤ i → i + 1 < b.width → 2 ≤ j → j + 1 < b.height → b.Shows canvas i j ' '

/-- At each of its places a box shows its label, or its frame where it has none there. -/
theorem shows_char (h : ¬ b.IsTiny) (hi : i < b.width) (hj : j < b.height) (z : Int) :
    b.Shows (Stroke.canvas (b.strokes z)) i j ((b.labelChar? i j).getD (b.frameChar i j)) := by
  have hcovers : b.Covers (b.left + i) (b.top + j) := by
    rw [covers_of_not_isTiny h]
    omega
  have hx : (b.left + i - b.left).toNat = i := by omega
  have hy : (b.top + j - b.top).toNat = j := by omega
  unfold Shows
  rw [Stroke.canvas_eq, lastCell?_strokes, cell?, if_pos hcovers, hx, hy, char, if_neg h]

/-- Where there is no label, the frame shows. -/
theorem shows_frame (h : ¬ b.IsTiny) (hi : i < b.width) (hj : j < b.height)
    (hlabel : b.labelChar? i j = none) (z : Int) :
    b.Shows (Stroke.canvas (b.strokes z)) i j (b.frameChar i j) := by
  simpa [hlabel] using shows_char h hi hj z

/-- The label covers the frame. -/
theorem shows_label (h : ¬ b.IsTiny) (hi : i < b.width) (hj : j < b.height) {c : Char}
    (hlabel : b.labelChar? i j = some c) (z : Int) :
    b.Shows (Stroke.canvas (b.strokes z)) i j c := by
  simpa [hlabel] using shows_char h hi hj z

/-- The label is in the second row. -/
theorem labelChar?_of_row_ne (hj : j ≠ 1) : b.labelChar? i j = none := if_pos (Or.inr (Or.inl hj))

/-- In a box without an inside there is no room for it. -/
theorem labelChar?_of_flat (hflat : b.height = 2) : b.labelChar? i j = none := if_pos (Or.inl hflat)

/-- The label does not touch the frame on the left. -/
theorem labelChar?_left : b.labelChar? 0 j = none := if_pos (Or.inr (Or.inr rfl))

/-- The heading is the first thing inside. -/
theorem labelChar?_heading (hhigh : 2 < b.height) : b.labelChar? 1 1 = some b.heading := by
  rw [labelChar?, if_neg (by omega)]
  rfl

/-- The name follows it, as much of it as there is room for. -/
theorem labelChar?_name (hhigh : 2 < b.height) (n : ℕ) :
    b.labelChar? (2 + n) 1 = (b.name.toList.take (b.width - 3))[n]? := by
  have hplace : 2 + n - 1 = n + 1 := by omega
  rw [labelChar?, if_neg (by omega), hplace, List.getElem?_cons_succ]

/-- The label does not reach the right edge. -/
theorem labelChar?_right (hwide : 2 < b.height → 3 ≤ b.width) (hj : j + 1 < b.height) :
    b.labelChar? (b.width - 1) j = none := by
  by_cases hrow : j = 1
  · subst hrow
    have hwidth := hwide hj
    obtain ⟨n, hn⟩ : ∃ n, b.width - 1 = 2 + n := ⟨b.width - 3, by omega⟩
    rw [hn, labelChar?_name hj, List.getElem?_eq_none]
    rw [List.length_take]
    omega
  · exact labelChar?_of_row_ne hrow

/-- There is no label in the bottom row. -/
theorem labelChar?_bottom (h : ¬ b.IsTiny) : b.labelChar? i (b.height - 1) = none := by
  unfold IsTiny at h
  by_cases hflat : b.height = 2
  · exact labelChar?_of_flat hflat
  · exact labelChar?_of_row_ne (by omega)

theorem edges_left (width : ℕ) : Scene.edges width 0 = ('┌', '└') := rfl

theorem edges_right {width : ℕ} (h : 2 ≤ width) : Scene.edges width (width - 1) = ('┐', '┘') := by
  rw [Scene.edges, if_neg (by omega), if_pos (by omega)]

theorem edges_between {width : ℕ} (hi : 1 ≤ i) (hi' : i + 1 < width) :
    Scene.edges width i = ('─', '─') := by
  rw [Scene.edges, if_neg (by omega), if_neg (by omega)]

/-- The strokes of a box paint the places that it covers. -/
theorem painted_strokes (b : Box) (z : Int) :
    Stroke.painted (Stroke.canvas (b.strokes z)) = {place | b.Covers place.1 place.2} := by
  ext place
  rw [Stroke.painted, Set.mem_ofPred_eq, Stroke.canvas_eq, lastCell?_strokes, cell?]
  split
  · rename_i hcovers
    simpa using hcovers
  · rename_i hcovers
    simpa using hcovers

/-- **A box has its frame**, its label and its blanks, if it is not too narrow for the heading. -/
theorem isFramedOn_canvas (h : ¬ b.IsTiny) (hwide : 2 < b.height → 3 ≤ b.width) (z : Int) :
    b.IsFramedOn (Stroke.canvas (b.strokes z)) := by
  obtain ⟨hwidth, hheight⟩ : 2 ≤ b.width ∧ 2 ≤ b.height := by
    unfold IsTiny at h
    omega
  -- the top and the bottom edge show the characters of their column
  have htop : ∀ i < b.width,
      b.Shows (Stroke.canvas (b.strokes z)) i 0 (Scene.edges b.width i).1 := by
    intro i hi
    have hframe := shows_frame h hi (by omega) (labelChar?_of_row_ne Nat.zero_ne_one) z
    rwa [frameChar_top] at hframe
  have hbottom : ∀ i < b.width,
      b.Shows (Stroke.canvas (b.strokes z)) i (b.height - 1) (Scene.edges b.width i).2 := by
    intro i hi
    have hframe := shows_frame h hi (by omega) (labelChar?_bottom h) z
    rwa [frameChar_bottom h] at hframe
  exact {
    places := by
      rw [painted_strokes]
      ext place
      simp only [Set.mem_ofPred_eq, covers_of_not_isTiny h, Set.mem_prod, Set.mem_Ico, and_assoc]
    topCorners := by
      have hleft := htop 0 (by omega)
      have hright := htop (b.width - 1) (by omega)
      rw [edges_left] at hleft
      rw [edges_right hwidth] at hright
      exact ⟨hleft, hright⟩
    bottomCorners := by
      have hleft := hbottom 0 (by omega)
      have hright := hbottom (b.width - 1) (by omega)
      rw [edges_left] at hleft
      rw [edges_right hwidth] at hright
      exact ⟨hleft, hright⟩
    horizontal := by
      intro i hi hi'
      have hover := htop i (by omega)
      have hunder := hbottom i (by omega)
      rw [edges_between hi hi'] at hover hunder
      exact ⟨hover, hunder⟩
    vertical := by
      intro j hj hj'
      have hleft := shows_frame h (i := 0) (by omega) (Nat.lt_of_succ_lt hj') labelChar?_left z
      have hright := shows_frame h (i := b.width - 1) (by omega) (Nat.lt_of_succ_lt hj')
        (labelChar?_right hwide hj') z
      rw [frameChar_side hj hj' (Or.inl rfl)] at hleft
      rw [frameChar_side hj hj' (Or.inr (by omega))] at hright
      exact ⟨hleft, hright⟩
    heading := fun hhigh => shows_label h (by omega) (by omega) (labelChar?_heading hhigh) z
    name := by
      intro hhigh n c hroom hc
      refine shows_label h (by omega) (by omega) ?_ z
      rw [labelChar?_name hhigh, List.getElem?_take_of_lt hroom, hc]
    afterName := by
      intro hhigh n hn hn'
      have hnone : b.labelChar? (2 + n) 1 = none := by
        rw [labelChar?_name hhigh, List.getElem?_eq_none]
        rw [List.length_take]
        omega
      have hblank := shows_frame h (by omega) (by omega) hnone z
      rwa [frameChar_inside (le_refl 1) hhigh (by omega) hn'] at hblank
    inside := by
      intro i j hi hi' hj hj'
      have hnone : b.labelChar? i j = none := labelChar?_of_row_ne (by omega)
      have hblank := shows_frame h (by omega) (by omega) hnone z
      rwa [frameChar_inside (by omega) hj' hi hi'] at hblank }

/-- As many places are painted as the rectangle has. -/
theorem IsFramedOn.ncard_painted {canvas : Canvas} (h : b.IsFramedOn canvas) :
    (Stroke.painted canvas).ncard = b.width * b.height := by
  rw [h.places, Set.ncard_prod, ← Finset.coe_Ico, ← Finset.coe_Ico, Set.ncard_coe_finset,
    Set.ncard_coe_finset, Int.card_Ico, Int.card_Ico, add_sub_cancel_left, add_sub_cancel_left,
    Int.toNat_natCast, Int.toNat_natCast]

/-- A box without a row inside of its frame is drawn without its label. -/
theorem strokes_of_flat (h : ¬ b.IsTiny) (hflat : b.height = 2) (z : Int) :
    b.strokes z = b.base z := by
  rw [strokes_of_not_isTiny h, label, if_pos hflat, List.append_nil]

/-- So another label makes no difference. -/
theorem strokes_relabel (h : ¬ b.IsTiny) (hflat : b.height = 2) (heading : Char) (name : String)
    (z : Int) : ({ b with heading, name } : Box).strokes z = b.strokes z := by
  rw [strokes_of_flat h hflat]
  exact strokes_of_flat (b := { b with heading, name }) h hflat z

end Box

/-! ## What a sprite shows -/

namespace Scene

/-- The box of a view whose sprite has this name and is highlighted or not. -/
def outlineOf (v : View) (name : String) (lit : Bool) : Box where
  left := leftOf v
  top := topOf v
  width := sideOf 10.0 v.looks.size
  height := sideOf 5.0 v.looks.size
  style :=
    { foreground := some (if lit then .red else hueColor (baseHue + v.looks.color))
      bold := lit }
  heading := headingChar v.angle
  name

/-- The strokes of a visible sprite without a bubble are those of its box. -/
theorem spriteStrokes_eq_strokes {v : View} (hvisible : v.looks.visible = true)
    (hbubble : v.bubble = none) (name : String) (lit : Bool) (z : Int) :
    spriteStrokes v name lit z = (outlineOf v name lit).strokes z := by
  unfold spriteStrokes
  simp only [hbubble, hvisible, if_true]
  rfl

/-- **The outline of a sprite.** A visible sprite without a bubble leaves its box and nothing else:
a single place with its heading if the box is too small for a frame, and otherwise the frame, the
heading, as much of the name as there is room for, and blanks. In a box without a row inside of its
frame neither heading nor name is drawn. -/
theorem sprite_outline {v : View} (hvisible : v.looks.visible = true) (hbubble : v.bubble = none)
    (name : String) (lit : Bool) (z : Int) :
    let b := outlineOf v name lit
    let canvas := Stroke.canvas (spriteStrokes v name lit z)
    (b.width < 2 ∨ b.height < 2 → ∀ x y, canvas x y =
      if x = b.left ∧ y = b.top then some ⟨b.heading, b.style⟩ else none) ∧
    (2 ≤ b.width → 2 ≤ b.height → (2 < b.height → 3 ≤ b.width) →
      b.IsFramedOn canvas ∧ (Stroke.painted canvas).ncard = b.width * b.height ∧
      (b.height = 2 → ∀ (angle : Float) (other : String),
        spriteStrokes { v with angle } other lit z = spriteStrokes v name lit z)) := by
  intro b canvas
  have hstrokes : spriteStrokes v name lit z = b.strokes z :=
    spriteStrokes_eq_strokes hvisible hbubble name lit z
  have hcanvas : canvas = Stroke.canvas (b.strokes z) := congrArg Stroke.canvas hstrokes
  constructor
  · intro htiny x y
    have hcovers : b.Covers x y ↔ x = b.left ∧ y = b.top := Box.covers_of_isTiny htiny
    have hchar : b.char (x - b.left).toNat (y - b.top).toNat = b.heading := if_pos htiny
    rw [hcanvas, Stroke.canvas_eq, Box.lastCell?_strokes, Box.cell?, hchar]
    simp only [hcovers]
  · intro hwidth hheight hwide
    have htiny : ¬ b.IsTiny := by
      unfold Box.IsTiny
      omega
    have hframed : b.IsFramedOn canvas := hcanvas ▸ Box.isFramedOn_canvas htiny hwide z
    refine ⟨hframed, hframed.ncard_painted, fun hflat angle other => ?_⟩
    have hother := spriteStrokes_eq_strokes (v := { v with angle }) hvisible hbubble other lit z
    rw [hstrokes, hother]
    exact Box.strokes_relabel htiny hflat (headingChar angle) other z

/-- A sprite of the usual size, with a name that is shorter than its box. -/
theorem sprite_outline_cat :
    let cat : View := ⟨⟨1⟩, ⟨20.0, 40.0⟩, 0.0, {}, none⟩
    let b := outlineOf cat "Cat" false
    let canvas := Stroke.canvas (spriteStrokes cat "Cat" false 0)
    cat.looks.visible = true ∧ cat.bubble = none ∧ b.width = 10 ∧ b.height = 5 ∧
      (Stroke.painted canvas).ncard = 50 ∧ b.Shows canvas 0 0 '┌' ∧ b.Shows canvas 1 1 '→' ∧
      b.Shows canvas 2 1 'C' ∧ b.Shows canvas 5 1 ' ' ∧ b.Shows canvas 9 1 '│' := by
  intro cat b canvas
  have hwidth : b.width = 10 := by decide
  have hheight : b.height = 5 := by decide
  have hheading : b.heading = '→' := by decide
  have hname : b.name.toList = ['C', 'a', 't'] := by decide
  obtain ⟨-, houtline⟩ := sprite_outline (v := cat) rfl rfl "Cat" false 0
  obtain ⟨hframed, hcount, -⟩ :=
    houtline (by rw [hwidth]; decide) (by rw [hheight]; decide) (by rw [hwidth]; decide)
  change b.IsFramedOn canvas at hframed
  have hright := (hframed.vertical 1 (le_refl 1) (by omega)).2
  have hfirst := hframed.name (by omega) 0 'C' (by omega) (by rw [hname]; rfl)
  have hblank := hframed.afterName (by omega) 3 (by simp [hname]) (by omega)
  have hinner := hframed.heading (by omega)
  rw [hwidth] at hright
  rw [hheading] at hinner
  refine ⟨rfl, rfl, hwidth, hheight, ?_, hframed.topCorners.1, hinner, hfirst, hblank, hright⟩
  rw [hcount, hwidth, hheight]

end Scene

end SpriteStage
