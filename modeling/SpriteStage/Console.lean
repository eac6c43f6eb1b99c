import SpriteStage.Scene
import SpriteStage.Studio.Reaction
import SpriteStage.Terminal.Command

/-!
# The studio on a terminal

A `Console` is a studio with what has been drawn of it. Drawing answers with the commands to send:
`redraw` draws everything, `paintStage` and `paintStatus` what has changed. `Console.step` is one
turn of the console: an event may come in, some time passes, and the changes are drawn.

The screen has the menu bar in the first row, the status in the last, the stage between them on the
left and the panel of sprites and blocks on the right.
-/

namespace SpriteStage

open Terminal (Command)

/-- The size of a terminal, which is told in 16 bits. -/
structure ScreenSize where
  width : UInt16
  height : UInt16
  deriving DecidableEq

/-- The number of columns. -/
def ScreenSize.columns (s : ScreenSize) : Nat := s.width.toNat

/-- The number of rows. -/
def ScreenSize.rows (s : ScreenSize) : Nat := s.height.toNat

/-- A studio with what has been drawn of it. -/
structure Console where
  studio : Studio
  /-- The size of the stage in cells. -/
  canvas : ScreenSize
  grid : Grid
  status : String
  fullscreen : Bool

namespace Console

/-- A console on which nothing has been drawn. -/
def start (studio : Studio) : Console := ⟨studio, ⟨0, 0⟩, [], "", false⟩

/-- The columns of the panel. -/
def panelWidth : Nat := 30

/-- The rows above the stage. -/
def menuRows : Nat := 1

/-- The longest time that a turn waits for an event. -/
def longestWait : Duration := .ofMillis 50

/-- How many milliseconds the status tells of a swap. -/
def bannerMillis : UInt64 := 2000

/-! ## Parts of the screen -/

/-- The items of the menu bar. -/
def menuItems (k : KeyBindings) : List String :=
  ["[" ++ k.togglePlay ++ "] play/stop", "[" ++ k.nextSprite ++ "] sprite",
    "[" ++ k.palettePrevious ++ "/" ++ k.paletteNext ++ "] palette", "[" ++ k.addBlock ++ "] add",
    "[" ++ k.clickBlock ++ "] click", "[" ++ k.increase ++ "/" ++ k.decrease ++ "] value",
    "[" ++ k.removeBlock ++ "] del", "[" ++ k.quit ++ "] quit"]

/-- Draws the menu bar. -/
def drawMenu (c : Console) : List Command :=
  [.moveTo 0 0, .clearLine, .print " "] ++
    (((menuItems c.studio.settings.keys).map Terminal.printItem).intersperse [.print "  "]).flatten

/-- A line of the panel. -/
structure PanelLine where
  text : String
  selected : Bool
  deriving DecidableEq

/-- Lines for the items of a list, with a mark at the one that is selected. -/
def listLines (selected : Nat) (items : List String) : List PanelLine :=
  items.mapIdx fun i item => ⟨(if i = selected then "> " else "  ") ++ item, i = selected⟩

/-- The lines of the panel: the sprites, the script of the one that is selected, and the palette
item. -/
def panelLines (s : Studio) : List PanelLine :=
  let plain (text : String) : PanelLine := ⟨text, false⟩
  let script := match s.sprite? with
    | some sprite =>
      plain ("Script: " ++ sprite.name) ::
        (if sprite.script.isEmpty then [plain "  (empty)"]
        else listLines s.blockIndex (sprite.script.map (·.instruction.summary)))
    | none => [plain "No sprites"]
  let add := match s.paletteItem? with
    | some item => [plain ("Add: < " ++ item.summary ++ " >")]
    | none => []
  plain "Sprites" :: listLines s.spriteIndex (s.run.program.sprites.map (·.name)) ++
    plain "" :: script ++ plain "" :: add

/-- Draws the panel, cut to its width and to the height of the stage. -/
def drawPanel (c : Console) : List Command :=
  let line (row : Nat) (l : PanelLine) : List Command :=
    let text := String.ofList (l.text.toList.take (panelWidth - 1))
    [.moveTo c.canvas.columns (row + menuRows), .print "│"] ++
      if l.selected then [.attribute .reverse, .print text, .attribute .reset] else [.print text]
  (((panelLines c.studio).take c.canvas.rows).mapIdx line).flatten

/-- What there is to see on the stage. -/
def scene (s : Studio) : Scene :=
  ⟨s.run.playback.views, s.run.program.nameOf, s.run.playback.highlighted⟩

/-- The picture of the stage. -/
def picture (c : Console) : Grid := (scene c.studio).picture c.canvas.columns c.canvas.rows

/-- The text of the status line. -/
def statusText (s : Studio) : String :=
  let p := s.run.playback
  let banner := match p.lastSwap with
    | some swap =>
      if p.clock.asMillis ≤ swap.millis + bannerMillis then
        " | " ++ swap.left ++ " ⇄ " ++ swap.right
      else ""
    | none => ""
  " " ++ (if p.isRunning then "PLAYING" else "STOPPED") ++ " | tick " ++ toString p.ticks ++ banner

/-! ## Drawing -/

/-- Draws all cells of a picture. -/
def drawGrid (g : Grid) : List Command :=
  (g.mapIdx fun y row => .moveTo 0 (y + menuRows) :: row.map Terminal.printCell).flatten

/-- Draws the cells that have changed. -/
def drawChanges (changes : List CellChange) : List Command :=
  changes.flatMap fun change =>
    [.moveTo change.x.toNat (change.y.toNat + menuRows), Terminal.printCell change.cell]

/-- The grids have the same number of rows, and their first rows are of the same length. -/
def sameSize (g h : Grid) : Bool :=
  g.length = h.length && g.head?.map (·.length) = h.head?.map (·.length)

/-- Draws the stage: all of it if asked to or if its size has changed, otherwise the changes. -/
def paintStage (c : Console) (full : Bool) : Console × List Command :=
  let grid := c.picture
  let commands :=
    if full || !sameSize c.grid grid then drawGrid grid else drawChanges (c.grid.changes grid)
  ({ c with grid := grid }, commands)

/-- Draws the status if asked to or if it has changed. -/
def paintStatus (c : Console) (force : Bool) : Console × List Command :=
  let status := statusText c.studio
  if !force && status = c.status then (c, [])
  else
    ({ c with status := status },
      [.moveTo 0 (c.canvas.rows + menuRows), .clearLine, .styled { dim := true } status])

/-- The size of the stage on a terminal of some size. -/
def canvasOf (size : ScreenSize) : ScreenSize where
  width := .ofNatLT (size.columns - panelWidth) (Nat.sub_lt_of_lt size.width.toNat_lt)
  height := .ofNatLT (size.rows - (menuRows + 1)) (Nat.sub_lt_of_lt size.height.toNat_lt)

/-- Draws everything on a terminal of some size, and measures the stage anew. -/
def redraw (c : Console) (size : ScreenSize) : Console × List Command :=
  let canvas := canvasOf size
  let run := c.studio.run
  let playback := run.playback.resize (Scene.viewportOf canvas.columns canvas.rows)
  let c := { c with
    canvas := canvas
    studio := { c.studio with run := { run with playback := playback } } }
  let (c, stage) := c.paintStage true
  let (painted, status) := c.paintStatus true
  (painted, [.clearAll] ++ c.drawMenu ++ stage ++ c.drawPanel ++ status)

/-! ## Turns -/

/-- How long the next turn waits for an event. -/
def wait (c : Console) : Duration :=
  match c.studio.run.playback.nextDeadline? with
  | some d => if d ≤ longestWait then d else longestWait
  | none => longestWait

/-- What becomes of a turn. -/
inductive Turn where
  | next (c : Console) (commands : List Command)
  | ended (c : Console)

/-- Draws the changes after some time has passed. -/
def pass (c : Console) (dt : Duration) : Console × List Command :=
  let (c, stage) := paintStage { c with studio := c.studio.advance dt } false
  let (c, status) := c.paintStatus false
  (c, stage ++ status)

/-- One turn: an event may come in at a moment, on a terminal of some size, and then time passes. -/
def step (c : Console) (size : ScreenSize) (m : Moment) (event : Option Event) (dt : Duration) :
    Turn :=
  let (studio, reaction) := match event with
    | some e => c.studio.handle m e
    | none => (c.studio, .nothing)
  let c := { c with studio := studio }
  match reaction with
  | .quit => .ended c
  | .nothing =>
    let (c, changes) := c.pass dt
    .next c changes
  | .redraw =>
    let (c, all) := c.redraw size
    let (c, changes) := c.pass dt
    .next c (all ++ changes)
  | .toggleFullscreen =>
    let c := { c with fullscreen := !c.fullscreen }
    let (c, all) := c.redraw size
    let (c, changes) := c.pass dt
    .next c (.fullscreen c.fullscreen :: all ++ changes)

end Console

end SpriteStage
