import Mathlib
import SpriteStage.Proofs.Grids

/-!
# Writing changes into a grid

The changes between two grids of the same shape are told row by row, each place at most once
(`Grid.pairwise_changes`), and whoever writes them into the first grid has the second one
(`Grid.write_changes`). Along a chain of grids nothing gets lost either (`Grid.changes_exact`).
-/

namespace SpriteStage

/-- Changes come row by row, and from left to right in a row. -/
def CellChange.Before (c d : CellChange) : Prop := c.y < d.y ∨ c.y = d.y ∧ c.x < d.x

/-- One of two changes at a place cannot come before the other. -/
theorem CellChange.Before.place_ne {c d : CellChange} (h : c.Before d) :
    ¬(c.x.toNat = d.x.toNat ∧ c.y.toNat = d.y.toNat) := by
  rintro ⟨hx, hy⟩
  rw [UInt16.toNat_inj] at hx hy
  rcases h with hlt | ⟨-, hlt⟩
  · exact absurd hlt (hy ▸ UInt16.lt_irrefl _)
  · exact absurd hlt (hx ▸ UInt16.lt_irrefl _)

namespace Grid

/-! ## Grids of the same shape -/

/-- The grids have the same number of rows, and rows of the same lengths. -/
def SameShape (g h : Grid) : Prop := g.map List.length = h.map List.length

theorem SameShape.length_eq {g h : Grid} (hshape : g.SameShape h) : g.length = h.length := by
  simpa using congrArg List.length hshape

theorem SameShape.symm {g h : Grid} (hshape : g.SameShape h) : h.SameShape g := Eq.symm hshape

theorem SameShape.trans {g h k : Grid} (hgh : g.SameShape h) (hhk : h.SameShape k) :
    g.SameShape k := Eq.trans hgh hhk

theorem SameShape.length_row {g h : Grid} (hshape : g.SameShape h) {y : ℕ} {p n : List Cell}
    (hp : g[y]? = some p) (hn : h[y]? = some n) : p.length = n.length := by
  have hrow := congrArg (fun lengths : List ℕ => lengths[y]?) hshape
  simpa [hp, hn] using hrow

/-- Both grids have a cell at a place, or neither has. -/
theorem SameShape.isSome_cell?_eq {g h : Grid} (hshape : g.SameShape h) (x y : ℕ) :
    (g.cell? x y).isSome = (h.cell? x y).isSome := by
  unfold cell?
  rcases Nat.lt_or_ge y g.length with hy | hy
  · have hp := List.getElem?_eq_getElem hy
    have hn := List.getElem?_eq_getElem (hshape.length_eq ▸ hy)
    have hlength := hshape.length_row hp hn
    rw [hp, hn, Bool.eq_iff_iff]
    simp only [Option.bind_eq_bind, Option.bind_some, isSome_getElem?, hlength]
  · rw [List.getElem?_eq_none hy, List.getElem?_eq_none (hshape.length_eq ▸ hy)]

/-- If one of them can be addressed, so can the other. -/
theorem SameShape.addressable {g h : Grid} (hshape : g.SameShape h) (hg : g.Addressable) :
    h.Addressable where
  rows := hshape.length_eq ▸ hg.rows
  columns := by
    intro row hrow
    have hlength : row.length ∈ g.map List.length := hshape ▸ List.mem_map_of_mem hrow
    obtain ⟨row', hrow', heq⟩ := List.mem_map.1 hlength
    exact heq ▸ hg.columns row' hrow'

/-- A grid is known by its shape and its cells. -/
theorem SameShape.eq_of_cell? {g h : Grid} (hshape : g.SameShape h)
    (hcells : ∀ x y, g.cell? x y = h.cell? x y) : g = h := by
  apply List.ext_getElem hshape.length_eq
  intro y hg hh
  have hrow : ∀ x : ℕ, g[y][x]? = h[y][x]? := by
    intro x
    have hcell := hcells x y
    rwa [cell?, cell?, List.getElem?_eq_getElem hg, List.getElem?_eq_getElem hh] at hcell
  exact List.ext_getElem? hrow

/-! ## Writing changes -/

/-- The grid after the changed cells were replaced, one after the other. -/
def write (g : Grid) (changes : List CellChange) : Grid :=
  changes.foldl (fun g change => g.set change.x.toNat change.y.toNat change.cell) g

theorem write_cons (g : Grid) (change : CellChange) (rest : List CellChange) :
    g.write (change :: rest) =
      (g.set change.x.toNat change.y.toNat change.cell).write rest := rfl

theorem sameShape_set (g : Grid) (x y : ℕ) (c : Cell) : g.SameShape (g.set x y c) := by
  apply List.ext_getElem?
  intro n
  rw [set, List.getElem?_map, List.getElem?_map, List.getElem?_modify]
  cases g[n]? with
  | none => rfl
  | some row =>
    by_cases hn : y = n
    · simp [hn]
    · simp [hn]

theorem sameShape_write (g : Grid) (changes : List CellChange) : g.SameShape (g.write changes) := by
  induction changes generalizing g with
  | nil => rfl
  | cons change rest ih => exact (sameShape_set g _ _ _).trans (ih _)

/-- A place that no change is about keeps its cell. -/
theorem cell?_write_of_forall_ne {changes : List CellChange} {x y : ℕ}
    (hne : ∀ change ∈ changes, ¬(x = change.x.toNat ∧ y = change.y.toNat)) (g : Grid) :
    (g.write changes).cell? x y = g.cell? x y := by
  induction changes generalizing g with
  | nil => rfl
  | cons change rest ih =>
    obtain ⟨hchange, hrest⟩ := List.forall_mem_cons.1 hne
    rw [write_cons, ih hrest, cell?_set, if_neg hchange]

/-- If no place is told twice, then a place that is told has the cell that is told with it. -/
theorem cell?_write_of_mem {changes : List CellChange}
    (hbefore : changes.Pairwise CellChange.Before) {change : CellChange}
    (hmem : change ∈ changes) (g : Grid)
    (hplace : (g.cell? change.x.toNat change.y.toNat).isSome = true) :
    (g.write changes).cell? change.x.toNat change.y.toNat = some change.cell := by
  induction changes generalizing g with
  | nil => exact absurd hmem List.not_mem_nil
  | cons first rest ih =>
    obtain ⟨hfirst, hrest⟩ := List.pairwise_cons.1 hbefore
    rw [write_cons]
    rcases List.mem_cons.1 hmem with rfl | hmem
    · rw [cell?_write_of_forall_ne fun later hlater => (hfirst later hlater).place_ne,
        cell?_set, if_pos ⟨rfl, rfl⟩]
      obtain ⟨old, hold⟩ := Option.isSome_iff_exists.1 hplace
      rw [hold, Option.map_some]
    · apply ih hrest hmem
      rw [← (sameShape_set g _ _ _).isSome_cell?_eq, hplace]

/-! ## The changes between two grids -/

/-- The changes of a row are told of that row, from its left end on. -/
theorem place_of_mem_rowChanges {y left : ℕ} {prev next : List Cell} (hy : y < 0x10000)
    (hwidth : left + next.length ≤ 0x10000) {change : CellChange}
    (hmem : change ∈ rowChanges y left prev next) :
    left ≤ change.x.toNat ∧ change.y.toNat = y := by
  obtain ⟨x, p, n, hx, -, hn, -, rfl⟩ := mem_rowChanges.1 hmem
  obtain ⟨hlt, -⟩ := List.getElem?_eq_some_iff.1 hn
  have hx' : x.toUInt16.toNat = x := Nat.mod_eq_of_lt (by omega)
  have hy' : y.toUInt16.toNat = y := Nat.mod_eq_of_lt hy
  exact ⟨hx'.symm ▸ hx, hy'⟩

/-- The changes of a row are told from left to right. -/
theorem pairwise_rowChanges {y left : ℕ} {prev next : List Cell} (hy : y < 0x10000)
    (hwidth : left + next.length ≤ 0x10000) :
    (rowChanges y left prev next).Pairwise CellChange.Before := by
  induction prev generalizing left next with
  | nil => simp [rowChanges]
  | cons p prev ih =>
    cases next with
    | nil => simp [rowChanges]
    | cons n next =>
      have hwidth' : left + 1 + next.length ≤ 0x10000 := by
        rw [List.length_cons] at hwidth
        omega
      have hrest := ih hwidth'
      rw [rowChanges]
      split
      · exact hrest
      · refine List.pairwise_cons.2 ⟨fun change hmem => Or.inr ?_, hrest⟩
        obtain ⟨hx, hrow⟩ := place_of_mem_rowChanges hy hwidth' hmem
        have hleft : left.toUInt16.toNat = left := Nat.mod_eq_of_lt (by omega)
        have htop : y.toUInt16.toNat = y := Nat.mod_eq_of_lt hy
        exact ⟨UInt16.toNat_inj.1 (htop.trans hrow.symm),
          UInt16.lt_iff_toNat_lt.2 (by rw [hleft]; omega)⟩

/-- Changes are told row by row and from left to right. -/
theorem pairwise_changesFrom {top : ℕ} {prev next : Grid} (hheight : top + next.length ≤ 0x10000)
    (hwidth : ∀ row ∈ next, row.length ≤ 0x10000) :
    (changesFrom top prev next).Pairwise CellChange.Before := by
  induction prev generalizing top next with
  | nil => simp [changesFrom]
  | cons p prev ih =>
    cases next with
    | nil => simp [changesFrom]
    | cons n next =>
      rw [List.length_cons] at hheight
      obtain ⟨hrow, hrows⟩ := List.forall_mem_cons.1 hwidth
      have htop : top < 0x10000 := by omega
      have hfirst : 0 + n.length ≤ 0x10000 := by omega
      rw [changesFrom, List.pairwise_append]
      refine ⟨pairwise_rowChanges htop hfirst, ih (by omega) hrows, ?_⟩
      -- the changes of the rows below are told later
      intro change hmem later hlater
      obtain ⟨-, hchange⟩ := place_of_mem_rowChanges htop hfirst hmem
      obtain ⟨x, y, q, m, hy, -, hm, -, rfl⟩ := mem_changesFrom.1 hlater
      obtain ⟨row, hget, -⟩ := Option.bind_eq_some_iff.1 hm
      obtain ⟨hlt, -⟩ := List.getElem?_eq_some_iff.1 hget
      have hy' : y.toUInt16.toNat = y := Nat.mod_eq_of_lt (by omega)
      exact Or.inl (UInt16.lt_iff_toNat_lt.2 (by rw [hchange, hy']; omega))

/-- The changes are told row by row and from left to right, and no place is told twice. -/
theorem pairwise_changes {prev next : Grid} (h : next.Addressable) :
    (changes prev next).Pairwise CellChange.Before :=
  pairwise_changesFrom (by simpa using h.rows) h.columns

/-- A place is told exactly if its cell differs. -/
theorem exists_mem_changes_iff {prev next : Grid} (hshape : prev.SameShape next)
    (h : next.Addressable) {x y : ℕ} :
    (∃ change ∈ changes prev next, change.x.toNat = x ∧ change.y.toNat = y) ↔
      prev.cell? x y ≠ next.cell? x y := by
  constructor
  · rintro ⟨change, hmem, rfl, rfl⟩
    obtain ⟨p, hp, hn, hne⟩ := h.mem_changes_iff.1 hmem
    rw [hp, hn]
    exact fun heq => hne (Option.some.inj heq)
  · intro hne
    have hsome := hshape.isSome_cell?_eq x y
    cases hp : prev.cell? x y with
    | none =>
      rw [hp] at hsome hne
      exact absurd (Option.isSome_eq_false_iff.1 hsome.symm) (by simpa using hne.symm)
    | some p =>
      rw [hp] at hsome hne
      obtain ⟨n, hn⟩ := Option.isSome_iff_exists.1 hsome.symm
      obtain ⟨hx, hy⟩ := h.of_cell? hn
      refine ⟨⟨x.toUInt16, y.toUInt16, n⟩, mem_changes.2 ⟨x, y, p, n, hp, hn, ?_, rfl⟩, ?_, ?_⟩
      · exact fun heq => hne (by rw [hn, heq])
      · exact Nat.mod_eq_of_lt hx
      · exact Nat.mod_eq_of_lt hy

/-- The changes turn the first grid into the second one. -/
theorem write_changes {prev next : Grid} (hshape : prev.SameShape next) (h : next.Addressable) :
    prev.write (changes prev next) = next := by
  have hwritten : prev.SameShape (prev.write (changes prev next)) := sameShape_write _ _
  refine (hwritten.symm.trans hshape).eq_of_cell? fun x y => ?_
  by_cases htold : ∃ change ∈ changes prev next, change.x.toNat = x ∧ change.y.toNat = y
  · obtain ⟨change, hmem, rfl, rfl⟩ := htold
    obtain ⟨p, hp, hn, -⟩ := h.mem_changes_iff.1 hmem
    rw [cell?_write_of_mem (pairwise_changes h) hmem prev (Option.isSome_of_eq_some hp), hn]
  · have hsame := mt (exists_mem_changes_iff hshape h).2 htold
    rw [cell?_write_of_forall_ne, not_not.1 hsame]
    exact fun change hmem hplace => htold ⟨change, hmem, hplace.1.symm, hplace.2.symm⟩

/-- A grid has no changes against itself. -/
theorem changes_self (g : Grid) : changes g g = [] := by
  apply List.eq_nil_iff_forall_not_mem.2
  intro change hmem
  obtain ⟨x, y, p, n, hp, hn, hne, -⟩ := mem_changes.1 hmem
  exact hne (Option.some.inj (hp.symm.trans hn))

/-! ## Chains of grids -/

/-- The changes from each grid to the next one, beginning with those from `g`. -/
def changesAlong (g : Grid) : List Grid → List (List CellChange)
  | [] => []
  | next :: rest => changes g next :: changesAlong next rest

/-- The changes along a chain of grids of the same shape lead to its last grid. -/
theorem foldl_write_changesAlong {g : Grid} {frames : List Grid} (h : g.Addressable)
    (hshape : ∀ frame ∈ frames, g.SameShape frame) :
    (changesAlong g frames).foldl write g = (g :: frames).getLast (List.cons_ne_nil _ _) := by
  induction frames generalizing g with
  | nil => rfl
  | cons next rest ih =>
    obtain ⟨hnext, hrest⟩ := List.forall_mem_cons.1 hshape
    have haddressable := hnext.addressable h
    rw [changesAlong, List.foldl_cons, write_changes hnext haddressable,
      ih haddressable fun frame hframe => hnext.symm.trans (hrest frame hframe),
      List.getLast_cons_cons]

/-- **Changes are exact.** The changes between two grids of the same shape turn the first one into
the second one. They are told row by row and from left to right, no place twice, and a place is
told, with its new cell, exactly if its cell differs. So a grid has no changes against itself, and
the changes along a chain of grids lead from its first to its last grid. -/
theorem changes_exact :
    (∀ prev next : Grid, prev.SameShape next → next.Addressable →
      prev.write (changes prev next) = next ∧
        (changes prev next).Pairwise CellChange.Before ∧
        (∀ x y, (∃ change ∈ changes prev next, change.x.toNat = x ∧ change.y.toNat = y) ↔
          prev.cell? x y ≠ next.cell? x y) ∧
        ∀ change ∈ changes prev next,
          next.cell? change.x.toNat change.y.toNat = some change.cell) ∧
      (∀ g : Grid, changes g g = []) ∧
      ∀ (g : Grid) (frames : List Grid), g.Addressable → (∀ frame ∈ frames, g.SameShape frame) →
        (changesAlong g frames).foldl write g =
          (g :: frames).getLast (List.cons_ne_nil _ _) := by
  refine ⟨fun prev next hshape h => ?_, changes_self, fun g frames => foldl_write_changesAlong⟩
  refine ⟨write_changes hshape h, pairwise_changes h, fun x y => ?_, fun change hmem => ?_⟩
  · exact exists_mem_changes_iff hshape h
  · obtain ⟨p, -, hn, -⟩ := h.mem_changes_iff.1 hmem
    exact hn

/-- Three grids with a row of two cells and a row of one cell. -/
theorem changes_exact_ragged :
    let star : Cell := ⟨'*', {}⟩
    let first : Grid := [[.blank, .blank], [.blank]]
    let second : Grid := [[.blank, star], [.blank]]
    let third : Grid := [[star, star], [star]]
    first.SameShape second ∧ second.Addressable ∧ changes first second = [⟨1, 0, star⟩] ∧
      first.write [⟨1, 0, star⟩] = second ∧
      changesAlong first [second, third] = [[⟨1, 0, star⟩], [⟨0, 0, star⟩, ⟨0, 1, star⟩]] ∧
      (changesAlong first [second, third]).foldl write first = third := by
  intro star first second third
  have hfirst : first.Addressable := ⟨by decide, by decide⟩
  have hsecond : second.Addressable := ⟨by decide, by decide⟩
  have hshape : ∀ frame ∈ [second, third], first.SameShape frame :=
    List.forall_mem_cons.2 ⟨rfl, List.forall_mem_singleton.2 rfl⟩
  exact ⟨rfl, hsecond, by decide, (changes_exact.1 first second rfl hsecond).1, by decide,
    changes_exact.2.2 first [second, third] hfirst hshape⟩

end Grid

end SpriteStage
