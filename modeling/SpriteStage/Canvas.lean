import SpriteStage.Number.Binary

/-!
# Drawing on a grid of cells

A `Stroke` puts one character at a place, on some height above the canvas. `Grid.paint` carries out
strokes, higher ones over lower ones and later ones over earlier ones of the same height, on a blank
grid of a fixed size, and drops those outside of it. `Grid.changes` lists the cells in which a grid
differs from the one before.

A grid is looked at through `Grid.cell?`: `cell?_blank` and `cell?_set` say what is seen of a blank
grid and after one cell was replaced.

A character is drawn in a `Style`. `hueColor` is the color of a hue and `headingChar` the arrow for
an angle.
-/

namespace SpriteStage

/-! ## Colors and headings -/

/-- A color of a character or of its background. -/
inductive Color where
  | black
  | red
  | green
  | yellow
  | blue
  | white
  | rgb (red green blue : UInt8)
  deriving DecidableEq

/-- How a character is drawn. -/
structure Style where
  foreground : Option Color := none
  background : Option Color := none
  bold : Bool := false
  dim : Bool := false
  deriving DecidableEq

/-- The arrows of eight directions, from the right clockwise. -/
def headings : List Char := ['→', '↘', '↓', '↙', '←', '↖', '↑', '↗']

/-- The arrow for the direction nearest to an angle in degrees, clockwise from the right. -/
def headingChar (angle : Float) : Char :=
  let sector := Rounding.halfAway.toInt 0 0xffffffffffffffff (wrap angle 360.0 / 45.0)
  headings.getD (sector.toNat % 8) '→'

/-- The color of a hue in degrees, at four fifths of full saturation and at full value. -/
def hueColor (hue : Float) : Color :=
  let sextant := wrap hue 360.0 / 60.0
  let chroma : Float := 1.0 * 0.8
  let second := chroma * (1.0 - magnitude (remainder sextant 2.0 - 1.0))
  let floor : Float := 1.0 - chroma
  let channel (x : Float) : UInt8 :=
    (Rounding.halfAway.toInt 0 255 ((x + floor) * 255.0)).toNat.toUInt8
  let color (r g b : Float) : Color := .rgb (channel r) (channel g) (channel b)
  match Rounding.towardZero.toInt 0 0xffffffff sextant with
  | 0 => color chroma second 0.0
  | 1 => color second chroma 0.0
  | 2 => color 0.0 chroma second
  | 3 => color 0.0 second chroma
  | 4 => color second 0.0 chroma
  | _ => color chroma 0.0 second

/-! ## Cells and strokes -/

/-- A character on the screen. -/
structure Cell where
  char : Char
  style : Style
  deriving DecidableEq

/-- An empty cell. -/
def Cell.blank : Cell := ⟨' ', {}⟩

/-- A character to be drawn at a place. The place may lie outside of the canvas. -/
structure Stroke where
  x : Int
  y : Int
  cell : Cell
  height : Int
  deriving DecidableEq

/-- A cell that has to be drawn anew. Its place is told in 16 bits. -/
structure CellChange where
  x : UInt16
  y : UInt16
  cell : Cell
  deriving DecidableEq

/-- Rows of cells. -/
abbrev Grid := List (List Cell)

namespace Grid

/-- A grid of empty cells. -/
def blank (width height : Nat) : Grid := List.replicate height (List.replicate width .blank)

/-- The cell of a column and a row. -/
def cell? (g : Grid) (x y : Nat) : Option Cell := g[y]? >>= fun row => row[x]?

/-- The grid with one cell replaced, if there is such a cell. -/
def set (g : Grid) (x y : Nat) (c : Cell) : Grid := g.modify y fun row => List.set row x c

/-- A blank grid shows blanks within its size and nothing beyond. -/
theorem cell?_blank (width height x y : Nat) :
    (blank width height).cell? x y = if x < width ∧ y < height then some .blank else none := by
  unfold blank cell?
  rw [List.getElem?_replicate]
  by_cases hy : y < height
  · rw [if_pos hy, Option.bind_eq_bind, Option.bind_some, List.getElem?_replicate]
    simp only [hy, and_true]
  · rw [if_neg hy, if_neg (fun h => hy h.2)]
    rfl

/-- Replacing a cell changes what is seen there, if there is a cell, and nowhere else. -/
theorem cell?_set (g : Grid) (x y : Nat) (c : Cell) (i j : Nat) :
    (g.set x y c).cell? i j =
      if i = x ∧ j = y then (g.cell? x y).map (fun _ => c) else g.cell? i j := by
  unfold set cell?
  rw [List.getElem?_modify]
  by_cases hj : j = y
  · subst hj
    cases g[j]? with
    | none => simp
    | some row =>
      by_cases hi : i = x
      · subst hi
        simp only [Option.map_eq_map, Option.map_some, Option.bind_eq_bind, Option.bind_some,
          List.getElem?_set, if_pos, and_self]
        by_cases hlen : i < row.length
        · rw [if_pos hlen, List.getElem?_eq_getElem hlen, Option.map_some]
        · rw [if_neg hlen, List.getElem?_eq_none (Nat.le_of_not_lt hlen), Option.map_none]
      · have hne : ¬x = i := fun h => hi h.symm
        simp [hi, hne]
  · have hne : ¬y = j := fun h => hj h.symm
    simp [hj, hne]

/-- The grid after one stroke. -/
def stroke (g : Grid) (s : Stroke) : Grid :=
  if s.x < 0 ∨ s.y < 0 then g else g.set s.x.toNat s.y.toNat s.cell

/-- The grid of some size with strokes on it. -/
def paint (width height : Nat) (strokes : List Stroke) : Grid :=
  (strokes.mergeSort fun a b => decide (a.height ≤ b.height)).foldl stroke (blank width height)

/-- The cells of a row, from a column on, in which `next` differs from `prev`. -/
def rowChanges (y : Nat) : (x : Nat) → (prev next : List Cell) → List CellChange
  | x, p :: prev, n :: next =>
    if p = n then rowChanges y (x + 1) prev next
    else ⟨x.toUInt16, y.toUInt16, n⟩ :: rowChanges y (x + 1) prev next
  | _, _, _ => []

/-- The cells, from a row on, in which `next` differs from `prev`. -/
def changesFrom : (y : Nat) → (prev next : Grid) → List CellChange
  | y, p :: prev, n :: next => rowChanges y 0 p n ++ changesFrom (y + 1) prev next
  | _, _, _ => []

/-- The cells in which `next` differs from `prev`, row by row, as far as both grids reach. -/
def changes (prev next : Grid) : List CellChange := changesFrom 0 prev next

end Grid

end SpriteStage
