import Mathlib
import SpriteStage.Proofs.Boxes

/-!
# What covers what

Boxes are painted in the order of the views, and after them the bubbles, again in the order of the
views, as long as there are not so many views that a box gets as high as a bubble
(`Scene.layered_strokes`). So a cell of a picture shows the last bubble there, or else the last box
there, or else nothing (`Scene.painters_law`).
-/

namespace SpriteStage

namespace Scene

variable {s : Scene}

/-! ## The strokes of a scene -/

/-- The sprite of a view is one of the highlighted pair. -/
def isLit (s : Scene) (v : View) : Bool :=
  s.highlighted.any fun pair => pair.1 = v.id || pair.2 = v.id

/-- The column at which the sprite of a view begins. -/
def leftOf (v : View) : Int := cellOf unitsPerColumn v.position.x

/-- The row at which the sprite of a view begins. -/
def topOf (v : View) : Int := cellOf unitsPerRow v.position.y

/-- The box of a view, visible or not. -/
def boxOf (s : Scene) (v : View) : Box where
  left := leftOf v
  top := topOf v
  width := sideOf 10.0 v.looks.size
  height := sideOf 5.0 v.looks.size
  style :=
    { foreground := some (if s.isLit v then .red else hueColor (baseHue + v.looks.color))
      bold := s.isLit v }
  heading := headingChar v.angle
  name := s.nameOf v.id

/-- What the box of a view leaves at a place. Only visible sprites have one. -/
def boxCell? (s : Scene) (x y : Int) (v : View) : Option Cell :=
  if v.looks.visible then (s.boxOf v).cell? x y else none

/-- What the bubble of a view leaves at a place, whether its sprite is visible or not. -/
def bubbleCell? (x y : Int) (v : View) : Option Cell :=
  v.bubble.bind fun b => b.cell? (leftOf v) (topOf v) x y

/-- The strokes of the bubble of a view. -/
def bubblePart (v : View) : List Stroke :=
  match v.bubble with
  | some b => bubbleStrokes (leftOf v) (topOf v) b
  | none => []

/-- The strokes of the box of a view at some height. -/
def boxPart (s : Scene) (v : View) (z : Int) : List Stroke :=
  if v.looks.visible then (s.boxOf v).strokes z else []

/-- The strokes of a view are those of its bubble and those of its box. -/
theorem spriteStrokes_eq (s : Scene) (v : View) (z : Int) :
    spriteStrokes v (s.nameOf v.id) (s.isLit v) z = bubblePart v ++ s.boxPart v z := rfl

/-- The strokes of the bubble of a view leave its cells. -/
theorem lastCell?_bubblePart (v : View) (x y : Int) :
    Stroke.lastCell? x y (bubblePart v) = bubbleCell? x y v := by
  unfold bubblePart bubbleCell?
  cases v.bubble with
  | none => rfl
  | some b => exact lastCell?_bubbleStrokes ..

/-- The strokes of the box of a view leave its cells, if the sprite is visible. -/
theorem lastCell?_boxPart (s : Scene) (v : View) (z x y : Int) :
    Stroke.lastCell? x y (s.boxPart v z) = s.boxCell? x y v := by
  unfold boxPart boxCell?
  split
  · exact Box.lastCell?_strokes ..
  · rfl

theorem height_of_mem_bubblePart {v : View} {a : Stroke} (h : a ∈ bubblePart v) :
    a.height = bubbleHeight := by
  unfold bubblePart at h
  split at h
  · exact height_of_mem_bubbleStrokes h
  · exact absurd h List.not_mem_nil

theorem height_of_mem_boxPart {v : View} {z : Int} {a : Stroke} (h : a ∈ s.boxPart v z) :
    a.height = z := by
  unfold boxPart at h
  split at h
  · exact Box.height_of_mem_strokes h
  · exact absurd h List.not_mem_nil

/-- The strokes of a scene come view by view, with heights counted up. -/
theorem strokesFrom_eq_flatMap (s : Scene) (z : ℕ) (views : List View) :
    s.strokesFrom z views =
      (views.zipIdx z).flatMap fun entry => bubblePart entry.1 ++ s.boxPart entry.1 entry.2 := by
  induction views generalizing z with
  | nil => rfl
  | cons v rest ih =>
    rw [strokesFrom, ih, List.zipIdx_cons, List.flatMap_cons, ← spriteStrokes_eq]
    rfl

/-! ## The order of painting -/

/-- The strokes of all boxes, in the order of the views. -/
def boxes (s : Scene) : List Stroke :=
  s.views.zipIdx.flatMap fun entry => s.boxPart entry.1 entry.2

/-- The strokes of all bubbles, in the order of the views. -/
def bubbles (s : Scene) : List Stroke := s.views.flatMap bubblePart

/-- Of all boxes the last one at a place counts. -/
theorem lastCell?_boxes (s : Scene) (x y : Int) :
    Stroke.lastCell? x y s.boxes = (s.views.filterMap (s.boxCell? x y)).getLast? := by
  have hviews : s.views.zipIdx.map Prod.fst = s.views := List.zipIdx_map_fst 0 s.views
  unfold boxes
  rw [Stroke.lastCell?_flatMap]
  simp only [lastCell?_boxPart]
  conv_rhs => rw [← hviews, List.filterMap_map]
  rfl

/-- Of all bubbles the last one at a place counts. -/
theorem lastCell?_bubbles (s : Scene) (x y : Int) :
    Stroke.lastCell? x y s.bubbles = (s.views.filterMap (bubbleCell? x y)).getLast? := by
  unfold bubbles
  rw [Stroke.lastCell?_flatMap]
  simp only [lastCell?_bubblePart]

/-- Boxes do not get as high as bubbles. -/
theorem height_lt_of_mem_boxPart (hviews : s.views.length ≤ 10000) {entry : View × ℕ}
    (hentry : entry ∈ s.views.zipIdx) {a : Stroke} (h : a ∈ s.boxPart entry.1 entry.2) :
    a.height < bubbleHeight := by
  have hindex := List.snd_lt_of_mem_zipIdx hentry
  rw [height_of_mem_boxPart h]
  unfold bubbleHeight
  omega

/-- Below the height of bubbles there are the boxes. -/
theorem low_strokes (hviews : s.views.length ≤ 10000) :
    s.strokes.filter (fun a => decide (a.height < bubbleHeight)) = s.boxes := by
  unfold strokes boxes
  rw [strokesFrom_eq_flatMap, List.filter_flatMap]
  refine List.flatMap_congr fun entry hentry => ?_
  rw [List.filter_append, List.filter_eq_nil_iff.2, List.filter_eq_self.2, List.nil_append]
  · exact fun a ha => decide_eq_true (height_lt_of_mem_boxPart hviews hentry ha)
  · intro a ha
    simp [height_of_mem_bubblePart ha]

/-- From the height of bubbles on there are the bubbles. -/
theorem high_strokes (hviews : s.views.length ≤ 10000) :
    s.strokes.filter (fun a => !decide (a.height < bubbleHeight)) = s.bubbles := by
  have hbubbles : s.bubbles = s.views.zipIdx.flatMap fun entry => bubblePart entry.1 := by
    unfold bubbles
    conv_lhs => rw [← List.zipIdx_map_fst 0 s.views, List.flatMap_map]
  unfold strokes
  rw [hbubbles, strokesFrom_eq_flatMap, List.filter_flatMap]
  refine List.flatMap_congr fun entry hentry => ?_
  rw [List.filter_append, List.filter_eq_self.2, List.filter_eq_nil_iff.2, List.append_nil]
  · intro a ha
    simp [height_lt_of_mem_boxPart hviews hentry ha]
  · intro a ha
    simp [height_of_mem_bubblePart ha]

theorem ascending_boxes (s : Scene) : Stroke.Ascending s.boxes := by
  have hindices : s.views.zipIdx.Pairwise fun a b => a.2 < b.2 := by
    apply List.pairwise_map.1
    rw [List.zipIdx_map_snd]
    exact List.pairwise_lt_range'
  unfold Stroke.Ascending boxes
  rw [List.pairwise_flatMap]
  refine ⟨fun entry _ => ?_, hindices.imp fun hlt a ha b hb => ?_⟩
  · refine List.pairwise_of_forall_mem_list fun a ha b hb => ?_
    rw [height_of_mem_boxPart ha, height_of_mem_boxPart hb]
  · rw [height_of_mem_boxPart ha, height_of_mem_boxPart hb]
    exact_mod_cast le_of_lt hlt

/-- **The order of painting.** First all boxes, then all bubbles. -/
theorem layered_strokes (hviews : s.views.length ≤ 10000) :
    Stroke.layered s.strokes = s.boxes ++ s.bubbles := by
  have hlevel : Stroke.Ascending s.bubbles := by
    refine List.pairwise_of_forall_mem_list fun a ha b hb => ?_
    obtain ⟨v, -, ha'⟩ := List.mem_flatMap.1 ha
    obtain ⟨w, -, hb'⟩ := List.mem_flatMap.1 hb
    rw [height_of_mem_bubblePart ha', height_of_mem_bubblePart hb']
  have hlow := low_strokes hviews
  have hhigh := high_strokes hviews
  rw [Stroke.layered_of_split, hlow, hhigh]
  · rw [hlow]
    exact ascending_boxes s
  · rw [hhigh]
    exact hlevel

/-- **What covers what.** A picture has as many rows and columns as were asked for. Each of its
cells shows the last bubble there, or else the last box of a visible sprite there, or else nothing;
of the strokes of one box the last one counts. Strokes outside of the canvas, also those left of it
or above it, change nothing. -/
theorem painters_law (s : Scene) (hviews : s.views.length ≤ 10000) (width height : ℕ) :
    (s.picture width height).length = height ∧
    (∀ row ∈ s.picture width height, row.length = width) ∧
    (∀ x y : ℕ, x < width → y < height →
      (s.picture width height).cell? x y =
        some (((s.views.filterMap (bubbleCell? x y)).getLast?.or
          (s.views.filterMap (s.boxCell? x y)).getLast?).getD .blank)) ∧
    (∀ (v : View) (z x y : Int),
      Stroke.lastCell? x y
        (spriteStrokes { v with bubble := none } (s.nameOf v.id) (s.isLit v) z) =
          s.boxCell? x y v) ∧
    ∀ strokes : List Stroke,
      Grid.paint width height strokes =
        Grid.paint width height (strokes.filter fun a => decide (a.IsWithin width height)) := by
  have hsize : (s.picture width height).HasSize width height := Grid.hasSize_paint _ _ _
  refine ⟨hsize.rows, fun row hrow => ?_, fun x y hx hy => ?_, fun v z x y => ?_,
    fun strokes => ?_⟩
  · obtain ⟨y, hy⟩ := List.mem_iff_getElem?.1 hrow
    exact hsize.columns y row hy
  · unfold picture
    rw [Grid.cell?_paint, if_pos ⟨hx, hy⟩, layered_strokes hviews, Stroke.lastCell?_append,
      lastCell?_bubbles, lastCell?_boxes]
  · have hbox := spriteStrokes_eq s { v with bubble := none } z
    exact (congrArg _ hbox).trans (lastCell?_boxPart s v z x y)
  · exact (Grid.paint_filter width height strokes).symm

/-- The bubble of a hidden sprite covers the heading and the name of another one, and the frame of a
third one is cut off by the corner of the picture. -/
theorem painters_law_crowd :
    let cat : View := ⟨⟨1⟩, ⟨20.0, 20.0⟩, 0.0, {}, none⟩
    let ghost : View := ⟨⟨2⟩, ⟨30.0, 60.0⟩, 0.0, { visible := false }, some ⟨.think, "Hm"⟩⟩
    let edge : View := ⟨⟨3⟩, ⟨-80.0, -80.0⟩, 0.0, {}, none⟩
    let s : Scene := ⟨[cat, ghost, edge], fun _ => "Cat", some (⟨1⟩, ⟨3⟩)⟩
    let red : Style := { foreground := some .red, bold := true }
    s.views.length ≤ 10000 ∧ (s.picture 12 4).length = 4 ∧
      (s.picture 12 4).cell? 4 2 = some ⟨'H', { foreground := some .white }⟩ ∧
      (s.picture 12 4).cell? 2 2 = some ⟨'│', red⟩ ∧
      (s.picture 12 4).cell? 1 0 = some ⟨'┘', red⟩ ∧
      (s.picture 12 4).cell? 0 3 = some .blank := by
  intro cat ghost edge s red
  have hviews : s.views.length ≤ 10000 := by decide
  obtain ⟨hrows, -, hcells, -⟩ := painters_law s hviews 12 4
  refine ⟨hviews, hrows, ?_, ?_, ?_, ?_⟩
  · rw [hcells 4 2 (by decide) (by decide)]
    decide
  · rw [hcells 2 2 (by decide) (by decide)]
    decide
  · rw [hcells 1 0 (by decide) (by decide)]
    decide
  · rw [hcells 0 3 (by decide) (by decide)]
    decide

end Scene

end SpriteStage
