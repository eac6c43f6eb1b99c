import SpriteStage.Canvas

/-!
# Sizes and changes of grids

A painted grid has the size it was asked for (`hasSize_paint`), and the changes from one grid to the
next are the places at which both have a cell and the cells differ (`mem_changes`). Places are told
in 16 bits, which is enough for a grid that is `Addressable`.
-/

namespace SpriteStage

namespace Grid

/-- The grid has so many columns and rows. -/
structure HasSize (g : Grid) (width height : Nat) : Prop where
  rows : g.length = height
  columns : ∀ (y : Nat) (row : List Cell), g[y]? = some row → row.length = width

/-- A grid has a cell at every place within its size, and nowhere else. -/
theorem HasSize.isSome_cell? {g : Grid} {width height : Nat} (h : g.HasSize width height)
    (x y : Nat) : (g.cell? x y).isSome = true ↔ x < width ∧ y < height := by
  unfold cell?
  cases hrow : g[y]? with
  | none =>
    have hy : height ≤ y := by
      rw [← h.rows]
      exact List.getElem?_eq_none_iff.1 hrow
    simp [Nat.not_lt.2 hy]
  | some row =>
    obtain ⟨hy, -⟩ := List.getElem?_eq_some_iff.1 hrow
    rw [h.rows] at hy
    rw [Option.bind_eq_bind, Option.bind_some, isSome_getElem?, h.columns y row hrow]
    exact (and_iff_left hy).symm

/-- Cells are within the size of their grid. -/
theorem HasSize.of_cell? {g : Grid} {width height x y : Nat} {cell : Cell}
    (h : g.HasSize width height) (hsome : g.cell? x y = some cell) : x < width ∧ y < height :=
  (h.isSome_cell? x y).1 (Option.isSome_of_eq_some hsome)

theorem hasSize_blank (width height : Nat) : (blank width height).HasSize width height where
  rows := List.length_replicate
  columns := by
    intro y row hrow
    rw [List.eq_of_mem_replicate (List.mem_of_getElem? hrow), List.length_replicate]

theorem HasSize.stroke {g : Grid} {width height : Nat} (h : g.HasSize width height) (s : Stroke) :
    (g.stroke s).HasSize width height := by
  unfold Grid.stroke
  split
  · exact h
  · refine ⟨(List.length_modify _ _ _).trans h.rows, fun y row hrow => ?_⟩
    rw [set, List.getElem?_modify] at hrow
    obtain ⟨old, hold, heq⟩ := Option.map_eq_some_iff.1 hrow
    rw [← heq]
    split
    · rw [List.length_set]
      exact h.columns y old hold
    · exact h.columns y old hold

/-- Strokes do not change the size of a grid. -/
theorem hasSize_paint (width height : Nat) (strokes : List Stroke) :
    (paint width height strokes).HasSize width height := by
  have hfold : ∀ (strokes : List Stroke) (g : Grid), g.HasSize width height →
      (strokes.foldl Grid.stroke g).HasSize width height := by
    intro strokes
    induction strokes with
    | nil => exact fun g h => h
    | cons s rest ih => exact fun g h => ih _ (h.stroke s)
  exact hfold _ _ (hasSize_blank width height)

/-- The changes of a row are the places at which both rows have a cell and the cells differ, told in
16 bits. -/
theorem mem_rowChanges {change : CellChange} {y left : Nat} {prev next : List Cell} :
    change ∈ rowChanges y left prev next ↔
      ∃ x p n, left ≤ x ∧ prev[x - left]? = some p ∧ next[x - left]? = some n ∧ p ≠ n ∧
        change = ⟨x.toUInt16, y.toUInt16, n⟩ := by
  induction prev generalizing left next with
  | nil => simp [rowChanges]
  | cons p prev ih =>
    cases next with
    | nil => simp [rowChanges]
    | cons n next =>
      have hmem : change ∈ rowChanges y left (p :: prev) (n :: next) ↔
          (p ≠ n ∧ change = ⟨left.toUInt16, y.toUInt16, n⟩) ∨
            change ∈ rowChanges y (left + 1) prev next := by
        rw [rowChanges]
        by_cases heq : p = n
        · simp [heq]
        · simp [heq]
      rw [hmem, ih]
      constructor
      · rintro (⟨hne, rfl⟩ | ⟨x, q, m, hx, hq, hm, hne, rfl⟩)
        · exact ⟨left, p, n, Nat.le_refl _, by simp, by simp, hne, rfl⟩
        · have hplace : x - left = x - (left + 1) + 1 := by omega
          refine ⟨x, q, m, by omega, ?_, ?_, hne, rfl⟩
          · rw [hplace, List.getElem?_cons_succ, hq]
          · rw [hplace, List.getElem?_cons_succ, hm]
      · rintro ⟨x, q, m, hx, hq, hm, hne, rfl⟩
        rcases Nat.eq_or_lt_of_le hx with rfl | hlt
        · simp only [Nat.sub_self, List.getElem?_cons_zero, Option.some.injEq] at hq hm
          subst hq hm
          exact Or.inl ⟨hne, rfl⟩
        · have hplace : x - left = x - (left + 1) + 1 := by omega
          rw [hplace, List.getElem?_cons_succ] at hq hm
          exact Or.inr ⟨x, q, m, hlt, hq, hm, hne, rfl⟩

/-- A change is told of a place in rows that both grids have, where the cells differ. -/
theorem mem_changesFrom {change : CellChange} {top : Nat} {prev next : Grid} :
    change ∈ changesFrom top prev next ↔
      ∃ x y p n, top ≤ y ∧ cell? prev x (y - top) = some p ∧ cell? next x (y - top) = some n ∧
        p ≠ n ∧ change = ⟨x.toUInt16, y.toUInt16, n⟩ := by
  induction prev generalizing top next with
  | nil => simp [changesFrom, cell?]
  | cons p prev ih =>
    cases next with
    | nil => simp [changesFrom, cell?]
    | cons n next =>
      have hbelow : ∀ {y : Nat}, top + 1 ≤ y → y - top = y - (top + 1) + 1 := by omega
      rw [changesFrom, List.mem_append, mem_rowChanges, ih]
      constructor
      · rintro (⟨x, q, m, -, hq, hm, hne, rfl⟩ | ⟨x, y, q, m, hy, hq, hm, hne, rfl⟩)
        · exact ⟨x, top, q, m, Nat.le_refl _, by simpa [cell?] using hq, by simpa [cell?] using hm,
            hne, rfl⟩
        · refine ⟨x, y, q, m, by omega, ?_, ?_, hne, rfl⟩
          · rwa [hbelow hy]
          · rwa [hbelow hy]
      · rintro ⟨x, y, q, m, hy, hq, hm, hne, rfl⟩
        rcases Nat.eq_or_lt_of_le hy with rfl | hlt
        · refine Or.inl ⟨x, q, m, Nat.zero_le _, ?_, ?_, hne, rfl⟩
          · simpa [cell?] using hq
          · simpa [cell?] using hm
        · rw [hbelow hlt] at hq hm
          exact Or.inr ⟨x, y, q, m, hlt, hq, hm, hne, rfl⟩

/-- **What a change is.** The changes are the places at which both grids have a cell and the cells
differ, told in 16 bits, with the new cell. -/
theorem mem_changes {change : CellChange} {prev next : Grid} :
    change ∈ changes prev next ↔
      ∃ x y p n, cell? prev x y = some p ∧ cell? next x y = some n ∧ p ≠ n ∧
        change = ⟨x.toUInt16, y.toUInt16, n⟩ := by
  rw [changes, mem_changesFrom]
  simp

/-- All places of the grid can be told in 16 bits. -/
structure Addressable (g : Grid) : Prop where
  rows : g.length ≤ 0x10000
  columns : ∀ row ∈ g, row.length ≤ 0x10000

/-- The places of an addressable grid can be told in 16 bits. -/
theorem Addressable.of_cell? {g : Grid} (h : g.Addressable) {x y : Nat} {cell : Cell}
    (hsome : g.cell? x y = some cell) : x < 0x10000 ∧ y < 0x10000 := by
  obtain ⟨row, hrow, hcell⟩ := Option.bind_eq_some_iff.1 hsome
  obtain ⟨hy, hget⟩ := List.getElem?_eq_some_iff.1 hrow
  obtain ⟨hx, -⟩ := List.getElem?_eq_some_iff.1 hcell
  have hwidth := h.columns row (hget ▸ List.getElem_mem hy)
  have hheight := h.rows
  omega

/-- A grid whose sides can be told in 16 bits is addressable. -/
theorem HasSize.addressable {g : Grid} {width height : Nat} (h : g.HasSize width height)
    (hwidth : width ≤ 0x10000) (hheight : height ≤ 0x10000) : g.Addressable where
  rows := h.rows ▸ hheight
  columns := by
    intro row hrow
    obtain ⟨y, hy⟩ := List.mem_iff_getElem?.1 hrow
    exact h.columns y row hy ▸ hwidth

/-- In a grid whose places can be told, a change is told at its place. -/
theorem Addressable.mem_changes_iff {prev next : Grid} (h : next.Addressable)
    {change : CellChange} :
    change ∈ changes prev next ↔
      ∃ p, cell? prev change.x.toNat change.y.toNat = some p ∧
        cell? next change.x.toNat change.y.toNat = some change.cell ∧ p ≠ change.cell := by
  rw [mem_changes]
  constructor
  · rintro ⟨x, y, p, n, hp, hn, hne, rfl⟩
    obtain ⟨hx, hy⟩ := h.of_cell? hn
    have hx' : x.toUInt16.toNat = x := Nat.mod_eq_of_lt hx
    have hy' : y.toUInt16.toNat = y := Nat.mod_eq_of_lt hy
    rw [hx', hy']
    exact ⟨p, hp, hn, hne⟩
  · rintro ⟨p, hp, hn, hne⟩
    exact ⟨_, _, p, change.cell, hp, hn, hne, by simp⟩

end Grid

end SpriteStage
