import Mathlib
import SpriteStage.Proofs.Grids

/-!
# Strokes in layers

Strokes are painted layer by layer, the lower ones first, and within a layer in their own order
(`Stroke.layered`). That order is known by two facts: it ascends, and every layer is as it was
(`Stroke.layered_eq`). A cell of a painted grid shows the last stroke at its place in that order
(`Grid.cell?_paint`), and strokes outside of the canvas might as well not be there
(`Grid.paint_filter`).
-/

namespace SpriteStage

namespace Stroke

/-! ## The order of strokes -/

/-- The strokes in the order in which they are painted. -/
def layered (strokes : List Stroke) : List Stroke :=
  strokes.mergeSort fun a b => decide (a.height ≤ b.height)

/-- No stroke comes after a higher one. -/
def Ascending (strokes : List Stroke) : Prop := strokes.Pairwise fun a b => a.height ≤ b.height

/-- The strokes of one height, in their order. -/
def layer (height : Int) (strokes : List Stroke) : List Stroke :=
  strokes.filter fun s => decide (s.height = height)

theorem mem_layer {height : Int} {strokes : List Stroke} {s : Stroke} :
    s ∈ layer height strokes ↔ s ∈ strokes ∧ s.height = height := by
  rw [layer, List.mem_filter, decide_eq_true_iff]

theorem layer_cons (height : Int) (s : Stroke) (strokes : List Stroke) :
    layer height (s :: strokes) =
      if s.height = height then s :: layer height strokes else layer height strokes := by
  unfold layer
  rw [List.filter_cons]
  simp only [decide_eq_true_eq]

theorem layer_append (height : Int) (l m : List Stroke) :
    layer height (l ++ m) = layer height l ++ layer height m := List.filter_append ..

/-- Strokes that are dropped are dropped from their layer. -/
theorem layer_filter (height : Int) (keep : Stroke → Bool) (strokes : List Stroke) :
    layer height (strokes.filter keep) = (layer height strokes).filter keep := by
  unfold layer
  rw [List.filter_filter, List.filter_filter]
  congr 1
  funext s
  exact Bool.and_comm _ _

/-- What is in the strokes is in their layers. -/
theorem mem_iff_of_layers {l m : List Stroke} (h : ∀ height, layer height l = layer height m)
    (s : Stroke) : s ∈ l ↔ s ∈ m := by
  have hlayer : s ∈ layer s.height l ↔ s ∈ layer s.height m := by rw [h]
  simpa only [mem_layer, and_true] using hlayer

/-- Ascending strokes are known by their layers. -/
theorem Ascending.eq_of_layers {l m : List Stroke} (hl : Ascending l) (hm : Ascending m)
    (h : ∀ height, layer height l = layer height m) : l = m := by
  induction l generalizing m with
  | nil =>
    have hnone : ∀ s, s ∉ m := fun s hs => List.not_mem_nil ((mem_iff_of_layers h s).2 hs)
    exact (List.eq_nil_iff_forall_not_mem.2 hnone).symm
  | cons a l ih =>
    cases m with
    | nil => exact absurd ((mem_iff_of_layers h a).1 List.mem_cons_self) List.not_mem_nil
    | cons b m =>
      obtain ⟨ha, hltail⟩ := List.pairwise_cons.1 hl
      obtain ⟨hb, hmtail⟩ := List.pairwise_cons.1 hm
      -- both begin with a lowest stroke, and so with the first one of the same layer
      have hab : a.height ≤ b.height := by
        rcases List.mem_cons.1 ((mem_iff_of_layers h b).2 List.mem_cons_self) with rfl | hmem
        · exact le_refl _
        · exact ha b hmem
      have hba : b.height ≤ a.height := by
        rcases List.mem_cons.1 ((mem_iff_of_layers h a).1 List.mem_cons_self) with rfl | hmem
        · exact le_refl _
        · exact hb a hmem
      have hfirst := h a.height
      rw [layer_cons, layer_cons, if_pos rfl, if_pos (le_antisymm hba hab)] at hfirst
      have hhead : a = b := (List.cons.inj hfirst).1
      subst hhead
      have hrest : ∀ height, layer height l = layer height m := by
        intro height
        have hlayer := h height
        rw [layer_cons, layer_cons] at hlayer
        split at hlayer
        · exact (List.cons.inj hlayer).2
        · exact hlayer
      rw [ih hltail hmtail hrest]

theorem height_trans (a b c : Stroke) (hab : decide (a.height ≤ b.height) = true)
    (hbc : decide (b.height ≤ c.height) = true) : decide (a.height ≤ c.height) = true := by
  rw [decide_eq_true_iff] at hab hbc ⊢
  exact le_trans hab hbc

theorem height_total (a b : Stroke) :
    (decide (a.height ≤ b.height) || decide (b.height ≤ a.height)) = true := by
  rw [Bool.or_eq_true, decide_eq_true_iff, decide_eq_true_iff]
  exact le_total _ _

/-- The layers come with lower ones first. -/
theorem ascending_layered (strokes : List Stroke) : Ascending (layered strokes) :=
  (List.pairwise_mergeSort height_trans height_total strokes).imp fun h => of_decide_eq_true h

/-- In the order of painting every layer is as it was. -/
theorem layer_layered (height : Int) (strokes : List Stroke) :
    layer height (layered strokes) = layer height strokes := by
  have hlevel : (layer height strokes).Pairwise
      fun a b => decide (a.height ≤ b.height) = true := by
    refine List.pairwise_of_forall_mem_list fun a ha b hb => decide_eq_true ?_
    exact le_of_eq ((mem_layer.1 ha).2.trans (mem_layer.1 hb).2.symm)
  have hsub : (layer height strokes).Sublist (layered strokes) :=
    List.sublist_mergeSort height_trans height_total hlevel List.filter_sublist
  have hlayer := hsub.filter fun s => decide (s.height = height)
  have hperm := (List.mergeSort_perm strokes fun a b => decide (a.height ≤ b.height)).filter
    fun s => decide (s.height = height)
  simp only [layer, List.filter_filter, Bool.and_self] at hlayer
  exact (hlayer.eq_of_length hperm.length_eq.symm).symm

/-- **The order of painting.** It is the one that ascends and has the same layers. -/
theorem layered_eq {strokes m : List Stroke} (hm : Ascending m)
    (h : ∀ height, layer height m = layer height strokes) : layered strokes = m := by
  refine (ascending_layered strokes).eq_of_layers hm fun height => ?_
  rw [layer_layered, h]

/-- Strokes that are taken out do not change the order of the others. -/
theorem layered_filter (keep : Stroke → Bool) (strokes : List Stroke) :
    layered (strokes.filter keep) = (layered strokes).filter keep := by
  refine layered_eq ((ascending_layered strokes).filter keep) fun height => ?_
  rw [layer_filter, layer_layered, layer_filter]

/-- Where the strokes below some height ascend, and so do the others, the lower ones are painted
first. -/
theorem layered_of_split {strokes : List Stroke} {top : Int}
    (hlow : Ascending (strokes.filter fun s => decide (s.height < top)))
    (hhigh : Ascending (strokes.filter fun s => !decide (s.height < top))) :
    layered strokes = (strokes.filter fun s => decide (s.height < top)) ++
      strokes.filter fun s => !decide (s.height < top) := by
  apply layered_eq
  · refine List.pairwise_append.2 ⟨hlow, hhigh, fun a ha b hb => ?_⟩
    have ha' : a.height < top := by simpa using (List.mem_filter.1 ha).2
    have hb' : top ≤ b.height := by simpa using (List.mem_filter.1 hb).2
    omega
  · intro height
    rw [layer_append, layer_filter, layer_filter]
    -- a layer is all below or all above
    by_cases hlt : height < top
    · rw [List.filter_eq_self.2, List.filter_eq_nil_iff.2, List.append_nil]
      · intro s hs
        simp [(mem_layer.1 hs).2, hlt]
      · intro s hs
        simp [(mem_layer.1 hs).2, hlt]
    · rw [List.filter_eq_nil_iff.2, List.filter_eq_self.2, List.nil_append]
      · intro s hs
        simp [(mem_layer.1 hs).2, hlt]
      · intro s hs
        simp [(mem_layer.1 hs).2, hlt]

/-! ## The last stroke at a place -/

/-- What the stroke leaves at a place. -/
def cellAt? (x y : Int) (s : Stroke) : Option Cell :=
  if s.x = x ∧ s.y = y then some s.cell else none

/-- What is left at a place by the last one of the strokes there. -/
def lastCell? (x y : Int) (strokes : List Stroke) : Option Cell :=
  (strokes.filterMap (cellAt? x y)).getLast?

variable {x y : Int}

/-- Of two lists of strokes the second one counts, where it has any at the place. -/
theorem lastCell?_append (l m : List Stroke) :
    lastCell? x y (l ++ m) = (lastCell? x y m).or (lastCell? x y l) := by
  unfold lastCell?
  rw [List.filterMap_append, List.getLast?_append]

theorem lastCell?_singleton (s : Stroke) : lastCell? x y [s] = s.cellAt? x y := by
  unfold lastCell?
  cases h : s.cellAt? x y with
  | none => rw [List.filterMap_cons_none h]; rfl
  | some cell => rw [List.filterMap_cons_some h]; rfl

/-- A stroke counts where none follows it. -/
theorem lastCell?_cons (s : Stroke) (strokes : List Stroke) :
    lastCell? x y (s :: strokes) = (lastCell? x y strokes).or (s.cellAt? x y) := by
  rw [← List.singleton_append, lastCell?_append, lastCell?_singleton]

/-- Of groups of strokes, the last group that has a stroke there decides. -/
theorem lastCell?_flatMap {α : Type} (groups : List α) (strokesOf : α → List Stroke) :
    lastCell? x y (groups.flatMap strokesOf) =
      (groups.filterMap fun a => lastCell? x y (strokesOf a)).getLast? := by
  unfold lastCell?
  rw [List.filterMap_flatMap, List.getLast?_flatMap, List.getLast?_filterMap]

theorem lastCell?_eq_none {strokes : List Stroke}
    (h : ∀ s ∈ strokes, ¬ (s.x = x ∧ s.y = y)) : lastCell? x y strokes = none := by
  have hnil : strokes.filterMap (cellAt? x y) = [] :=
    List.filterMap_eq_nil_iff.2 fun s hs => if_neg (h s hs)
  unfold lastCell?
  rw [hnil, List.getLast?_nil]

/-- Where all strokes at a place leave the same there, that is what is left. -/
theorem lastCell?_eq_some {strokes : List Stroke} {cell : Cell}
    (hex : ∃ s ∈ strokes, s.x = x ∧ s.y = y)
    (hall : ∀ s ∈ strokes, s.x = x → s.y = y → s.cell = cell) :
    lastCell? x y strokes = some cell := by
  have hcells : ∀ c ∈ strokes.filterMap (cellAt? x y), c = cell := by
    intro c hc
    obtain ⟨s, hs, hcell⟩ := List.mem_filterMap.1 hc
    unfold cellAt? at hcell
    split at hcell
    · rename_i hplace
      rw [← Option.some.inj hcell]
      exact hall s hs hplace.1 hplace.2
    · exact absurd hcell (by simp)
  obtain ⟨s, hs, hplace⟩ := hex
  have hne : strokes.filterMap (cellAt? x y) ≠ [] :=
    List.ne_nil_of_mem (List.mem_filterMap.2 ⟨s, hs, if_pos hplace⟩)
  unfold lastCell?
  rw [List.getLast?_eq_some_getLast hne, hcells _ (List.getLast_mem hne)]

/-! ## The canvas -/

/-- The stroke is on a canvas of this size. -/
def IsWithin (width height : ℕ) (s : Stroke) : Prop :=
  0 ≤ s.x ∧ s.x < width ∧ 0 ≤ s.y ∧ s.y < height

instance (width height : ℕ) (s : Stroke) : Decidable (s.IsWithin width height) :=
  inferInstanceAs (Decidable (_ ∧ _))

end Stroke

namespace Grid

/-! ## Painted grids -/

/-- A stroke changes the cell at its place, if the grid has one there. -/
theorem cell?_stroke (g : Grid) (s : Stroke) (x y : ℕ) :
    (g.stroke s).cell? x y = (g.cell? x y).map fun old => (s.cellAt? x y).getD old := by
  unfold Grid.stroke Stroke.cellAt?
  split
  · rename_i hout
    have hplace : ¬ (s.x = x ∧ s.y = y) := by omega
    rw [if_neg hplace]
    exact Option.map_id'.symm
  · rename_i hin
    rw [cell?_set]
    by_cases hplace : s.x = x ∧ s.y = y
    · have hcell : x = s.x.toNat ∧ y = s.y.toNat := by omega
      rw [if_pos hplace, if_pos hcell, hcell.1, hcell.2]
      rfl
    · have hcell : ¬ (x = s.x.toNat ∧ y = s.y.toNat) := by omega
      rw [if_neg hplace, if_neg hcell]
      exact Option.map_id'.symm

/-- A cell shows the last stroke at its place. -/
theorem cell?_foldl_stroke (strokes : List Stroke) (g : Grid) (x y : ℕ) :
    (strokes.foldl Grid.stroke g).cell? x y =
      (g.cell? x y).map fun old => (Stroke.lastCell? x y strokes).getD old := by
  induction strokes generalizing g with
  | nil => exact Option.map_id'.symm
  | cons s rest ih =>
    rw [List.foldl_cons, ih, cell?_stroke, Option.map_map, Stroke.lastCell?_cons]
    congr 1
    funext old
    cases Stroke.lastCell? x y rest <;> rfl

/-- Painting carries out the strokes in their order on a blank grid. -/
theorem paint_eq (width height : ℕ) (strokes : List Stroke) :
    paint width height strokes = (Stroke.layered strokes).foldl Grid.stroke (blank width height) :=
  rfl

/-- **What a painted cell shows.** It is the last stroke there in the order of painting, and blank
where there is none. -/
theorem cell?_paint (width height : ℕ) (strokes : List Stroke) (x y : ℕ) :
    (paint width height strokes).cell? x y =
      if x < width ∧ y < height then
        some ((Stroke.lastCell? x y (Stroke.layered strokes)).getD .blank)
      else none := by
  rw [paint_eq, cell?_foldl_stroke, cell?_blank]
  split <;> rfl

/-- A stroke outside of the canvas changes nothing. -/
theorem HasSize.stroke_of_not_isWithin {g : Grid} {width height : ℕ} (h : g.HasSize width height)
    {s : Stroke} (hout : ¬ s.IsWithin width height) : g.stroke s = g := by
  unfold Grid.stroke
  split
  · rfl
  · rename_i hplace
    unfold Grid.set
    refine List.ext_getElem? fun y => ?_
    rw [List.getElem?_modify]
    cases hrow : g[y]? with
    | none => rfl
    | some row =>
      obtain ⟨hy, -⟩ := List.getElem?_eq_some_iff.1 hrow
      rw [h.rows] at hy
      split
      · rename_i hsy
        -- the row is on the canvas, so it is the column that is not
        have hx : row.length ≤ s.x.toNat := by
          rw [h.columns y row hrow]
          unfold Stroke.IsWithin at hout
          omega
        exact congrArg some (List.set_eq_of_length_le hx)
      · rfl

/-- Strokes beyond the grid may be left out. -/
theorem HasSize.foldl_stroke_filter {g : Grid} {width height : ℕ} (h : g.HasSize width height)
    (strokes : List Stroke) :
    (strokes.filter fun s => decide (s.IsWithin width height)).foldl Grid.stroke g =
      strokes.foldl Grid.stroke g := by
  induction strokes generalizing g with
  | nil => rfl
  | cons s rest ih =>
    rw [List.filter_cons]
    split
    · exact ih (h.stroke s)
    · rename_i hout
      rw [List.foldl_cons, h.stroke_of_not_isWithin fun hin => hout (decide_eq_true hin)]
      exact ih h

/-- **Strokes outside of the canvas** might as well not be there. -/
theorem paint_filter (width height : ℕ) (strokes : List Stroke) :
    paint width height (strokes.filter fun s => decide (s.IsWithin width height)) =
      paint width height strokes := by
  rw [paint_eq, paint_eq, Stroke.layered_filter, (hasSize_blank width height).foldl_stroke_filter]

end Grid

end SpriteStage
