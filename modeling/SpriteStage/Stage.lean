import SpriteStage.Duration
import SpriteStage.Program.Basic

/-!
# Scripts on the stage

What a script does on the stage. A `Pass` carries what its instructions change: a position, the
degrees turned and the looks. `Script.run` lets the instructions act from left to right, so that
later ones see what earlier ones did. The result is not brought back onto the stage; that is done by
`Viewport.clamp`, by which a part of the sprite stays on a stage of a measured size. Coordinates
that are no numbers go to the far edge.

Two positions are close when they are nearer than a distance on both axes. `firstClosePair?` finds
the close pair with the lowest ids: the lowest first id, and with it the lowest second one.

A script's bubbles follow each other without gaps from time zero: each is shown where the one before
ended and is hidden when its seconds are over. Other instructions take no time. `Sprite.cues` lists
these moments in the order in which they have to be carried out.
-/

namespace SpriteStage

/-- A place in stage units, `y` downward. -/
structure Position where
  x : Float
  y : Float
  deriving DecidableEq

/-! ## One pass over a script -/

/-- How a sprite looks. The size is in percent and the color is a hue in degrees that is added to
the sprite's own and never wrapped. -/
structure Looks where
  visible : Bool := true
  size : Float := 100.0
  color : Float := 0.0
  deriving DecidableEq

/-- The values that change while a script is run once. -/
structure Pass where
  position : Position
  /-- The degrees turned in this pass. -/
  turned : Float
  looks : Looks
  deriving DecidableEq

/-- What the instruction does in a pass. Bubbles and the mark for endless scripts do nothing. -/
def Instruction.act (p : Pass) : Instruction → Pass
  | .move steps => { p with position := ⟨p.position.x + steps.getD 0.0, p.position.y⟩ }
  | .turn degrees => { p with turned := p.turned + degrees.getD 0.0 }
  | .goto x y => { p with position := ⟨x.getD p.position.x, y.getD p.position.y⟩ }
  | .reveal => { p with looks := { p.looks with visible := true } }
  | .hide => { p with looks := { p.looks with visible := false } }
  | .changeColor amount =>
    { p with looks := { p.looks with color := p.looks.color + amount.getD 0.0 } }
  | .setColor value => { p with looks := { p.looks with color := value.getD 0.0 } }
  | .clearEffects => { p with looks := { p.looks with size := 100.0, color := 0.0 } }
  | .changeSizeBy amount =>
    { p with looks := { p.looks with size := p.looks.size + amount.getD 0.0 } }
  | .setSizeTo value => { p with looks := { p.looks with size := value.getD 100.0 } }
  | .bubble .. => p
  | .forever => p

/-- The pass of a whole script from a position and looks. -/
def Script.run (s : Script) (position : Position) (looks : Looks) : Pass :=
  s.foldl (fun p b => b.instruction.act p) ⟨position, 0.0, looks⟩

/-- The script is marked as one to run on every tick. -/
def Script.isEndless (s : Script) : Bool := s.any (·.instruction = .forever)

/-- The script runs on a tick: always if it is endless, otherwise once. -/
def Script.runsAfter (s : Script) (hasRun : Bool) : Bool := !hasRun || s.isEndless

/-! ## The edge of the stage -/

/-- The measured size of a stage, in stage units. -/
structure Viewport where
  width : Float
  height : Float
  deriving DecidableEq

namespace Viewport

/-- A stage that has not been measured. -/
def unmeasured : Viewport := ⟨0.0, 0.0⟩

/-- The size that a sprite is taken to have. -/
def spriteExtent : Float := 100.0

/-- The part of a sprite that stays on the stage. -/
def visibleMargin : Float := 20.0

/-- Both dimensions are known. -/
def isMeasured (v : Viewport) : Bool := 0.0 < v.width && 0.0 < v.height

/-- A coordinate brought into `[low, high]`, and to `low` if the range is empty. -/
def clampAxis (low high x : Float) : Float := greatest (least x high) low

/-- The position brought back onto a measured stage. -/
def clamp (v : Viewport) (p : Position) : Position :=
  if v.isMeasured then
    let low := visibleMargin - spriteExtent
    ⟨clampAxis low (v.width - visibleMargin) p.x, clampAxis low (v.height - visibleMargin) p.y⟩
  else p

end Viewport

/-! ## Sprites close to each other -/

/-- Nearer than the distance on both axes. -/
def Position.isClose (p q : Position) (distance : Float) : Bool :=
  magnitude (p.x - q.x) < distance && magnitude (p.y - q.y) < distance

/-- The first entry of a list that is close to a later one, and the first that it is close to. -/
def firstClose? (distance : Float) : List (SpriteId × Position) → Option (SpriteId × SpriteId)
  | [] => none
  | (a, p) :: rest =>
    match rest.find? fun entry => p.isClose entry.2 distance with
    | some (b, _) => some (a, b)
    | none => firstClose? distance rest

/-- The first close pair in the order of the ids. -/
def firstClosePair? (positions : List (SpriteId × Position)) (distance : Float) :
    Option (SpriteId × SpriteId) :=
  firstClose? distance (positions.mergeSort fun a b => decide (a.1 ≤ b.1))

/-! ## When bubbles come and go -/

/-- A sprite's bubble changes at some time: to a bubble, or to none. -/
structure Cue where
  time : Duration
  sprite : SpriteId
  bubble : Option Bubble
  deriving DecidableEq

/-- How long a bubble stays. Seconds that are absent, zero or no number count as the default. Less
than nothing is no time and more than the range is the longest time. -/
def bubbleLength (default : Float) (seconds : Option Float) : Duration :=
  let length := match seconds with
    | some s => if s == 0.0 || s.isNaN then default else s
    | none => default
  (Duration.ofSeconds? (greatest length 0.0)).getD .longest

/-- The cues of a script whose first bubble is shown at `start`. -/
def Script.cues (sprite : SpriteId) (default : Float) (start : Duration) : Script → List Cue
  | [] => []
  | ⟨_, .bubble kind message seconds⟩ :: rest =>
    let stop := start + bubbleLength default seconds
    ⟨start, sprite, some ⟨kind, message.getD ""⟩⟩ :: ⟨stop, sprite, none⟩ ::
      Script.cues sprite default stop rest
  | _ :: rest => Script.cues sprite default start rest

/-- The cues of a sprite. -/
def Sprite.cues (s : Sprite) (default : Float) : List Cue := Script.cues s.id default .zero s.script

/-- The cues of all sprites, one sprite after the other. -/
def cueSheet (sprites : List Sprite) (default : Float) : List Cue :=
  sprites.flatMap (·.cues default)

end SpriteStage
