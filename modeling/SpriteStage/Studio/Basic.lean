import SpriteStage.Playback.Run
import SpriteStage.Settings

/-!
# The studio

A `Studio` is a running program with what its user points at: a sprite, a block of its script and an
item of the palette. Its operations are the edits and the moves of the cursor that keys stand for.
What the world outside has to supply, the time of day and chance, comes as a `Moment`.

`palette` lists the instructions that a user can add to a script. `Instruction.nudge?` is the patch
that moves an instruction's main number by one step, up or down.
-/

namespace SpriteStage

/-! ## The palette and the value keys -/

/-- The instructions that can be added to a script. -/
def palette : List Instruction :=
  [.move (some 10.0), .turn (some 15.0), .turn (some (-15.0)), .goto (some 0.0) (some 0.0),
    .bubble .say (some "Hello!") (some 2.0), .bubble .think (some "Hmm...") (some 2.0), .reveal,
    .hide, .changeColor (some 25.0), .setColor (some 0.0), .clearEffects, .changeSizeBy (some 10.0),
    .setSizeTo (some 100.0), .forever]

/-- The patch that moves the main number of an instruction by one step in a direction. Seconds never
go below zero. Instructions without a number have no such patch. -/
def Instruction.nudge? (direction : Float) : Instruction → Option Patch
  | .move steps => some { steps := some (steps.getD 0.0 + 10.0 * direction) }
  | .turn degrees => some { degrees := some (degrees.getD 0.0 + 15.0 * direction) }
  | .goto x _ => some { x := some (x.getD 0.0 + 10.0 * direction) }
  | .bubble _ _ seconds =>
    some { seconds := some (greatest (seconds.getD usualSeconds + direction) 0.0) }
  | .changeColor amount => some { amount := some (amount.getD 0.0 + 10.0 * direction) }
  | .setColor value => some { value := some (value.getD 0.0 + 10.0 * direction) }
  | .changeSizeBy amount => some { amount := some (amount.getD 0.0 + 10.0 * direction) }
  | .setSizeTo value => some { value := some (value.getD 100.0 + 10.0 * direction) }
  | .reveal | .hide | .clearEffects | .forever => none

/-! ## The studio -/

/-- What the world outside tells when something happens. -/
structure Moment where
  /-- The time of day in milliseconds. -/
  millis : UInt64
  /-- A number drawn at random below `1024`. -/
  salt : UInt64
  deriving DecidableEq

/-- So many ids that a new block may get at a moment: the time with the random number in the low
bits, and the numbers that follow. -/
def Moment.blockIds (m : Moment) (count : Nat) : List BlockId :=
  (List.range count).map fun n => ⟨m.millis * 1024 + m.salt + n.toUInt64⟩

/-- A running program and what its user points at. -/
structure Studio where
  run : Run
  settings : Settings
  spriteIndex : Nat
  blockIndex : Nat
  palette : List Instruction
  paletteIndex : Nat
  /-- The stamp of the last click. -/
  lastStamp : UInt64

namespace Studio

/-- A studio for a program, with the cursor on the first block of the first sprite. -/
def enter (program : Program) (settings : Settings) (seed : UInt64) : Studio where
  run := Run.sync ⟨.fresh settings.playback seed, program⟩
  settings := settings
  spriteIndex := 0
  blockIndex := 0
  palette := SpriteStage.palette
  paletteIndex := 0
  lastStamp := 0

/-! ## Under the cursor -/

/-- The sprite pointed at. -/
def sprite? (s : Studio) : Option Sprite := s.run.program.sprites[s.spriteIndex]?

/-- The script of the sprite pointed at. -/
def script (s : Studio) : Script := (s.sprite?.map (·.script)).getD []

/-- The block pointed at. -/
def block? (s : Studio) : Option Block := s.script[s.blockIndex]?

/-- The palette item pointed at. -/
def paletteItem? (s : Studio) : Option Instruction := s.palette[s.paletteIndex]?

/-- The studio with another program, which the playback looks at. -/
def withProgram (s : Studio) (program : Program) : Studio :=
  { s with run := Run.sync { s.run with program := program } }

/-! ## Moving the cursor -/

/-- Points at the first block of the next sprite, after the last one at the first. -/
def nextSprite (s : Studio) : Studio :=
  let count := s.run.program.sprites.length
  if count = 0 then s else { s with spriteIndex := (s.spriteIndex + 1) % count, blockIndex := 0 }

/-- Moves the cursor in the script, not beyond its ends. -/
def moveCursor (s : Studio) (steps : Int) : Studio :=
  { s with blockIndex := (max 0 (min (s.blockIndex + steps) (s.script.length - 1))).toNat }

/-- Moves the cursor in the palette, around its ends. -/
def cyclePalette (s : Studio) (steps : Int) : Studio :=
  if s.palette.isEmpty then s
  else { s with paletteIndex := ((s.paletteIndex + steps) % s.palette.length).toNat }

/-! ## Editing -/

/-- Adds a sprite and points at it. -/
def addSprite (s : Studio) : Studio :=
  let count := s.run.program.sprites.length
  let program := s.run.program.addSprite ("Cat " ++ toString (count + 1))
  withProgram { s with spriteIndex := count, blockIndex := 0 } program

/-- Adds the palette item to the script and points at it. -/
def addBlock (s : Studio) (m : Moment) : Studio :=
  match s.sprite?, s.paletteItem? with
  | some sprite, some item =>
    let ids := m.blockIds (s.run.program.sprites.foldl (fun n sp => n + sp.script.length) 1)
    match s.run.program.addBlock? sprite.id item ids with
    | some (_, program) =>
      let s := s.withProgram program
      { s with blockIndex := s.script.length - 1 }
    | none => s.withProgram s.run.program
  | _, _ => s

/-- Removes the block pointed at and keeps the cursor in the script. -/
def removeBlock (s : Studio) : Studio :=
  match s.sprite?, s.block? with
  | some sprite, some block =>
    let program := (s.run.program.removeBlock? sprite.id block.id).getD s.run.program
    moveCursor (s.withProgram program) 0
  | _, _ => s

/-- Moves the main number of the block pointed at by one step in a direction. -/
def nudge (s : Studio) (direction : Float) : Studio :=
  match s.sprite?, s.block? with
  | some sprite, some block =>
    match block.instruction.nudge? direction with
    | some patch =>
      s.withProgram ((s.run.program.updateBlock? sprite.id block.id patch).getD s.run.program)
    | none => s
  | _, _ => s

/-! ## Playing -/

/-- Begins or ends a session. -/
def togglePlay (s : Studio) : Studio :=
  { s with run := s.run.setPlaying !s.run.playback.isRunning }

/-- The stamp of a click: the time of day, but later than the stamp before it. -/
def nextStamp (s : Studio) (m : Moment) : UInt64 := max m.millis (s.lastStamp + 1)

/-- Clicks on the block pointed at. -/
def clickBlock (s : Studio) (m : Moment) : Studio :=
  match s.sprite?, s.block? with
  | some sprite, some block =>
    let stamp := s.nextStamp m
    let run := s.run.sync
    let playback := run.playback.click ⟨sprite.id, block.instruction, stamp⟩
    { s with run := { run with playback := playback }, lastStamp := stamp }
  | _, _ => s

/-- Moves the clock on. -/
def advance (s : Studio) (dt : Duration) : Studio := { s with run := s.run.advance dt }

end Studio

end SpriteStage
