import SpriteStage.Number.Notation

/-!
# Instructions

An `Instruction` is one block of a sprite's script. The numbers and texts in it are optional: what
an absent one means is decided where the instruction is carried out. A `Patch` sets some of them and
never turns an instruction into another one.

`Instruction.agrees` compares two instructions by the values of their numbers, so that `0` agrees
with `-0` and nothing that holds a NaN agrees with itself.
-/

namespace SpriteStage

/-! ## Speech bubbles -/

/-- How a bubble is drawn. -/
inductive BubbleKind where
  | say
  | think
  deriving DecidableEq

/-- A speech bubble. -/
structure Bubble where
  kind : BubbleKind
  message : String
  deriving DecidableEq

/-! ## Instructions -/

/-- One instruction of a script. -/
inductive Instruction where
  /-- Move to the right. -/
  | move (steps : Option Float)
  /-- Turn clockwise. -/
  | turn (degrees : Option Float)
  /-- Go to a place, on the axes that are given. -/
  | goto (x y : Option Float)
  /-- Show a bubble for some seconds. -/
  | bubble (kind : BubbleKind) (message : Option String) (seconds : Option Float)
  /-- Become visible. -/
  | reveal
  /-- Become invisible. -/
  | hide
  /-- Add to the hue. -/
  | changeColor (amount : Option Float)
  /-- Set the hue. -/
  | setColor (value : Option Float)
  /-- Return to the hue and the size of the beginning. -/
  | clearEffects
  /-- Add to the size. -/
  | changeSizeBy (amount : Option Float)
  /-- Set the size. -/
  | setSizeTo (value : Option Float)
  /-- Mark the whole script as one to run on every tick. -/
  | forever
  deriving DecidableEq

/-- New values for some of the fields of an instruction. -/
structure Patch where
  steps : Option Float := none
  degrees : Option Float := none
  x : Option Float := none
  y : Option Float := none
  message : Option String := none
  seconds : Option Float := none
  amount : Option Float := none
  value : Option Float := none
  deriving DecidableEq

namespace Instruction

/-- The instruction moves or turns its sprite. -/
def isMotion : Instruction → Bool
  | .move _ | .turn _ | .goto _ _ => true
  | _ => false

/-- The instruction shows a bubble. -/
def isBubble : Instruction → Bool
  | .bubble .. => true
  | _ => false

/-- The fields that the instruction has take the values that the patch gives. The patch's other
values are ignored. -/
def patched (p : Patch) : Instruction → Instruction
  | .move steps => .move (p.steps.or steps)
  | .turn degrees => .turn (p.degrees.or degrees)
  | .goto x y => .goto (p.x.or x) (p.y.or y)
  | .bubble kind message seconds => .bubble kind (p.message.or message) (p.seconds.or seconds)
  | .changeColor amount => .changeColor (p.amount.or amount)
  | .setColor value => .setColor (p.value.or value)
  | .changeSizeBy amount => .changeSizeBy (p.amount.or amount)
  | .setSizeTo value => .setSizeTo (p.value.or value)
  | .reveal => .reveal
  | .hide => .hide
  | .clearEffects => .clearEffects
  | .forever => .forever

/-! ## Agreement -/

/-- Both are absent or both are numbers of equal value. -/
def numbersAgree : Option Float → Option Float → Bool
  | none, none => true
  | some a, some b => a.beq b
  | _, _ => false

/-- The same instruction with numbers of equal value and equal texts. -/
def agrees : Instruction → Instruction → Bool
  | .move a, .move b => numbersAgree a b
  | .turn a, .turn b => numbersAgree a b
  | .goto x y, .goto x' y' => numbersAgree x x' && numbersAgree y y'
  | .bubble k m s, .bubble k' m' s' => decide (k = k') && decide (m = m') && numbersAgree s s'
  | .changeColor a, .changeColor b => numbersAgree a b
  | .setColor a, .setColor b => numbersAgree a b
  | .changeSizeBy a, .changeSizeBy b => numbersAgree a b
  | .setSizeTo a, .setSizeTo b => numbersAgree a b
  | .reveal, .reveal | .hide, .hide | .clearEffects, .clearEffects | .forever, .forever => true
  | _, _ => false

/-! ## Labels -/

/-- The seconds of a bubble that has none, in labels and when its value is stepped. -/
def usualSeconds : Float := 2.0

/-- Numbers in labels have the fewest digits that read back, never an exponent, and no fraction
when they are whole. -/
def labelNumbers : NumberStyle where
  tie := .up
  positional := none
  whole := ""
  nan := "NaN"
  infinity := "inf"

/-- A number in a label, or the default for an absent one. -/
def labelNumber (x : Option Float) (default : Float) : String :=
  labelNumbers.write (x.getD default)

/-- The label of an instruction in the script panel. -/
def summary : Instruction → String
  | .move steps => "move " ++ labelNumber steps 0.0 ++ " steps"
  | .turn degrees => "turn " ++ labelNumber degrees 0.0 ++ " deg"
  | .goto x y =>
    let axis (name : String) : Option Float → String
      | some value => name ++ labelNumbers.write value
      | none => ""
    "go to" ++ axis " x:" x ++ axis " y:" y
  | .bubble kind message seconds =>
    (match kind with | .say => "say \"" | .think => "think \"") ++ message.getD "" ++ "\" " ++
      labelNumber seconds usualSeconds ++ "s"
  | .reveal => "show"
  | .hide => "hide"
  | .changeColor amount => "change color by " ++ labelNumber amount 0.0
  | .setColor value => "set color to " ++ labelNumber value 0.0
  | .clearEffects => "clear graphic effects"
  | .changeSizeBy amount => "change size by " ++ labelNumber amount 0.0
  | .setSizeTo value => "set size to " ++ labelNumber value 100.0 ++ "%"
  | .forever => "repeat animation"

end Instruction

end SpriteStage
