import SpriteStage.Block.Instruction

/-!
# Programs

A `Program` is the size of a stage and a list of sprites, each with a home position and a script of
blocks. Sprites and blocks are named by ids. An edit acts on the first sprite with the id it is
given, and on nothing when there is none.

`Program.addBlock?` takes the ids it may use from its caller, as a list of candidates, and uses the
first one that the script does not have.
-/

namespace SpriteStage

/-! ## Ids -/

/-- The name of a sprite in a program. -/
structure SpriteId where
  number : UInt32
  deriving DecidableEq

instance : LT SpriteId := ⟨fun a b => a.number < b.number⟩
instance : LE SpriteId := ⟨fun a b => a.number ≤ b.number⟩
instance (a b : SpriteId) : Decidable (a < b) := inferInstanceAs (Decidable (a.number < b.number))
instance (a b : SpriteId) : Decidable (a ≤ b) := inferInstanceAs (Decidable (a.number ≤ b.number))

/-- The name of a block in a script. -/
structure BlockId where
  number : UInt64
  deriving DecidableEq

/-! ## Programs -/

/-- An instruction in a script. -/
structure Block where
  id : BlockId
  instruction : Instruction
  deriving DecidableEq

/-- The blocks of a sprite, in the order in which they act. -/
abbrev Script := List Block

/-- A sprite with its home position. -/
structure Sprite where
  id : SpriteId
  name : String
  x : Float
  y : Float
  script : Script
  deriving DecidableEq

/-- The size of a stage in stage units. -/
structure StageSize where
  width : Float := 600.0
  height : Float := 400.0
  deriving DecidableEq

/-- A stage and its sprites. -/
structure Program where
  stage : StageSize
  sprites : List Sprite
  deriving DecidableEq

/-- The program that a new stage starts with. -/
def Program.starter : Program where
  stage := {}
  sprites := [⟨⟨1⟩, "Cat 1", 50.0, 50.0, []⟩, ⟨⟨2⟩, "Cat 2", 220.0, 80.0, []⟩]

/-! ## Agreement -/

/-- The same id and instructions that agree. -/
def Block.agrees (a b : Block) : Bool := decide (a.id = b.id) && a.instruction.agrees b.instruction

/-- Blocks that agree one by one. -/
def Script.agrees : Script → Script → Bool
  | [], [] => true
  | a :: as, b :: bs => a.agrees b && Script.agrees as bs
  | _, _ => false

/-- The same sprite, compared by the values of its numbers. -/
def Sprite.agrees (a b : Sprite) : Bool :=
  decide (a.id = b.id) && decide (a.name = b.name) && a.x.beq b.x && a.y.beq b.y &&
    Script.agrees a.script b.script

/-- Sprites that agree one by one. -/
def spritesAgree : List Sprite → List Sprite → Bool
  | [], [] => true
  | a :: as, b :: bs => a.agrees b && spritesAgree as bs
  | _, _ => false

/-! ## Scripts -/

/-- The script has a block of that id. -/
def Script.has (s : Script) (id : BlockId) : Bool := s.any (·.id = id)

/-- The script with the first block of that id patched. -/
def Script.patch (id : BlockId) (p : Patch) : Script → Script
  | [] => []
  | b :: rest =>
    if b.id = id then ⟨b.id, b.instruction.patched p⟩ :: rest else b :: Script.patch id p rest

/-- The script without the blocks of that id. -/
def Script.remove (s : Script) (id : BlockId) : Script := s.filter (·.id ≠ id)

namespace Program

/-! ## Sprites of a program -/

/-- The first sprite of that id. -/
def sprite? (p : Program) (id : SpriteId) : Option Sprite := p.sprites.find? (·.id = id)

/-- The script of the first sprite of that id. -/
def script? (p : Program) (id : SpriteId) : Option Script := (p.sprite? id).map (·.script)

/-- The name of the first sprite of that id, empty when there is none. -/
def nameOf (p : Program) (id : SpriteId) : String := ((p.sprite? id).map (·.name)).getD ""

/-- The sprites with a new script for the first one of that id. -/
def withScript (id : SpriteId) (script : Script) : List Sprite → List Sprite
  | [] => []
  | s :: rest =>
    if s.id = id then { s with script := script } :: rest else s :: withScript id script rest

/-- The program with a new script for the first sprite of that id. -/
def setScript (p : Program) (id : SpriteId) (script : Script) : Program :=
  { p with sprites := withScript id script p.sprites }

/-! ## Edits -/

/-- The id that a new sprite gets: one more than the greatest in use. -/
def nextSpriteId (p : Program) : SpriteId :=
  ⟨(p.sprites.map (·.id.number)).foldl max 0 + 1⟩

/-- Adds a sprite without blocks at the end of the list, shifted by one step for each sprite
before it. -/
def addSprite (p : Program) (name : String) : Program :=
  let offset := 40.0 * p.sprites.length.toUInt64.toFloat
  { p with sprites := p.sprites ++ [⟨p.nextSpriteId, name, 50.0 + offset, 50.0 + offset, []⟩] }

/-- Adds a block at the end of a sprite's script, under the first of the candidate ids that the
script does not have. The id is answered too. -/
def addBlock? (p : Program) (sprite : SpriteId) (i : Instruction) (candidates : List BlockId) :
    Option (BlockId × Program) := do
  let script ← p.script? sprite
  let id ← candidates.find? fun id => !Script.has script id
  return (id, p.setScript sprite (script ++ [⟨id, i⟩]))

/-- Patches a block where it stands, if there is such a block. -/
def updateBlock? (p : Program) (sprite : SpriteId) (block : BlockId) (patch : Patch) :
    Option Program := do
  let script ← p.script? sprite
  if Script.has script block then some (p.setScript sprite (Script.patch block patch script))
  else none

/-- Removes a block, if there is such a block. -/
def removeBlock? (p : Program) (sprite : SpriteId) (block : BlockId) : Option Program := do
  let script ← p.script? sprite
  if Script.has script block then some (p.setScript sprite (Script.remove script block)) else none

/-- Exchanges the scripts of two sprites, if both are there. -/
def swapScripts (p : Program) (a b : SpriteId) : Program :=
  if a = b then p
  else
    match p.script? a, p.script? b with
    | some left, some right => (p.setScript a right).setScript b left
    | _, _ => p

end Program

end SpriteStage
