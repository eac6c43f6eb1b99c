import SpriteStage.Keyboard
import SpriteStage.Studio.Basic

/-!
# What keys do

An `Event` is what a terminal reports. `Studio.handle` carries it out and answers with a `Reaction`,
which says what is left to do for whoever draws the studio. Of the keys only a press counts, and of
several actions with a binding that names it the first in `actions` is taken.
-/

namespace SpriteStage

/-- What happens to a key. -/
inductive KeyMotion where
  | press
  | again
  | release
  deriving DecidableEq

/-- What a terminal reports. -/
inductive Event where
  | key (press : KeyPress) (motion : KeyMotion)
  | resize
  /-- Anything that the studio takes no notice of. -/
  | other
  deriving DecidableEq

/-- What is left to do after an event. -/
inductive Reaction where
  | nothing
  | redraw
  | toggleFullscreen
  | quit
  deriving DecidableEq

/-- What a key can be bound to. -/
inductive KeyAction where
  | toggleFullscreen
  | quit
  | edit (change : Studio → Moment → Studio)

/-- The bindings with their actions, the first ones first. -/
def KeyBindings.actions (k : KeyBindings) : List (String × KeyAction) :=
  [(k.fullscreen, .toggleFullscreen),
    (k.quit, .quit),
    (k.togglePlay, .edit fun s _ => s.togglePlay),
    (k.nextSprite, .edit fun s _ => s.nextSprite),
    (k.newSprite, .edit fun s _ => s.addSprite),
    (k.blockUp, .edit fun s _ => s.moveCursor (-1)),
    (k.blockDown, .edit fun s _ => s.moveCursor 1),
    (k.palettePrevious, .edit fun s _ => s.cyclePalette (-1)),
    (k.paletteNext, .edit fun s _ => s.cyclePalette 1),
    (k.addBlock, .edit fun s m => s.addBlock m),
    (k.removeBlock, .edit fun s _ => s.removeBlock),
    (k.increase, .edit fun s _ => s.nudge 1.0),
    (k.decrease, .edit fun s _ => s.nudge (-1.0)),
    (k.clickBlock, .edit fun s m => s.clickBlock m)]

/-- The action of a key press, if it has one. -/
def KeyBindings.action? (k : KeyBindings) (press : KeyPress) : Option KeyAction :=
  (k.actions.find? fun entry => Binding.names entry.1 press).map (·.2)

/-- Carries out an event at a moment. -/
def Studio.handle (s : Studio) (m : Moment) : Event → Studio × Reaction
  | .key press .press =>
    match s.settings.keys.action? press with
    | some .toggleFullscreen => (s, .toggleFullscreen)
    | some .quit => (s, .quit)
    | some (.edit change) => (change s m, .redraw)
    | none => (s, .nothing)
  | .key .. => (s, .nothing)
  | .resize => (s, .redraw)
  | .other => (s, .nothing)

end SpriteStage
