import SpriteStage.Canvas
import SpriteStage.Cast

/-!
# A picture of the stage

A `Scene` is what there is to see at one moment. `Scene.strokes` draws it: each visible sprite as a
framed box with its heading and its name, later sprites over earlier ones, and the bubbles above all
sprites. A cell is ten stage units wide and twenty high.
-/

namespace SpriteStage

/-- What there is to see on the stage. -/
structure Scene where
  views : List View
  /-- The names of the sprites, empty for a sprite without one. -/
  nameOf : SpriteId → String
  /-- The pair of sprites that is highlighted. -/
  highlighted : Option (SpriteId × SpriteId)

namespace Scene

/-- The stage units that a column covers. -/
def unitsPerColumn : Float := 10.0

/-- The stage units that a row covers. -/
def unitsPerRow : Float := 20.0

/-- The size in stage units of a canvas of columns and rows. -/
def viewportOf (columns rows : Nat) : Viewport :=
  ⟨columns.toUInt64.toFloat * unitsPerColumn, rows.toUInt64.toFloat * unitsPerRow⟩

/-- The hue of a sprite without a color effect. -/
def baseHue : Float := 30.0

/-- The height above the canvas at which bubbles are drawn. -/
def bubbleHeight : Int := 10000

/-- The number of whole cells for a coordinate, as far as 32 bits reach. -/
def cellOf (units coordinate : Float) : Int :=
  Rounding.down.toInt (-0x80000000) 0x7fffffff (coordinate / units)

/-- How many cells a side of a box has that has `full` of them at a size of 100 percent: at least
one and at most 200. -/
def sideOf (full size : Float) : Nat :=
  (Rounding.halfAway.toInt 1 200 (full * greatest (size / 100.0) 0.0)).toNat

/-- Characters from a place to the right. -/
def textStrokes (x y : Int) (style : Style) (height : Int) : List Char → List Stroke
  | [] => []
  | c :: rest => ⟨x, y, ⟨c, style⟩, height⟩ :: textStrokes (x + 1) y style height rest

/-- A bubble one row above its sprite. A bubble without a message is not drawn. -/
def bubbleStrokes (x y : Int) (b : Bubble) : List Stroke :=
  if b.message.isEmpty then []
  else
    let (opening, closing, color) := match b.kind with
      | .say => ('<', '>', Color.yellow)
      | .think => ('(', ')', Color.white)
    textStrokes x (y - 1) { foreground := some color } bubbleHeight
      (opening :: b.message.toList ++ [closing])

/-- The two frame characters of a column: at its top and at its bottom. -/
def edges (width column : Nat) : Char × Char :=
  if column = 0 then ('┌', '└')
  else if column + 1 = width then ('┐', '┘')
  else ('─', '─')

/-- A box with its frame, blank inside, and on its first inner row the heading and as much of the
name as fits. A box too small for a frame is its heading alone. -/
def boxStrokes (x y : Int) (width height : Nat) (style : Style) (z : Int) (heading : Char)
    (name : String) : List Stroke :=
  let put (dx dy : Nat) (c : Char) : Stroke := ⟨x + dx, y + dy, ⟨c, style⟩, z⟩
  if width < 2 ∨ height < 2 then [put 0 0 heading]
  else
    let frame := (List.range width).flatMap fun i =>
      [put i 0 (edges width i).1, put i (height - 1) (edges width i).2]
    let inner := (List.range' 1 (height - 2)).flatMap fun j =>
      put 0 j '│' :: put (width - 1) j '│' ::
        (List.range' 1 (width - 2)).map fun i => put i j ' '
    let label :=
      if height = 2 then []
      else put 1 1 heading :: textStrokes (x + 2) (y + 1) style z (name.toList.take (width - 3))
    frame ++ inner ++ label

/-- A sprite and its bubble. A highlighted sprite is bold and red. -/
def spriteStrokes (v : View) (name : String) (highlighted : Bool) (z : Int) : List Stroke :=
  let x := cellOf unitsPerColumn v.position.x
  let y := cellOf unitsPerRow v.position.y
  let bubble := match v.bubble with
    | some b => bubbleStrokes x y b
    | none => []
  let box :=
    if v.looks.visible then
      let style : Style :=
        { foreground := some (if highlighted then .red else hueColor (baseHue + v.looks.color))
          bold := highlighted }
      boxStrokes x y (sideOf 10.0 v.looks.size) (sideOf 5.0 v.looks.size) style z
        (headingChar v.angle) name
    else []
  bubble ++ box

/-- The sprites of a list of views, at heights from `z` on. -/
def strokesFrom (s : Scene) : (z : Nat) → List View → List Stroke
  | _, [] => []
  | z, v :: rest =>
    let lit := s.highlighted.any fun pair => pair.1 = v.id || pair.2 = v.id
    spriteStrokes v (s.nameOf v.id) lit z ++ strokesFrom s (z + 1) rest

/-- The strokes that draw a scene. -/
def strokes (s : Scene) : List Stroke := s.strokesFrom 0 s.views

/-- The picture of a scene on a canvas. -/
def picture (s : Scene) (width height : Nat) : Grid := Grid.paint width height s.strokes

end Scene

end SpriteStage
