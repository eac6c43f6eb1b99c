import SpriteStage.Number.Notation

/-!
# Keys and bindings

A `KeyPress` is a key with the modifiers held. A binding is a text that names one: a key name, a
function key as `F` and its number, or a single character, perhaps with `Ctrl-` or `Alt-` before it.
Shift and Super do not count. `Binding.names` decides whether a press is the one that is named.
-/

namespace SpriteStage

/-- A key of the keyboard. -/
inductive Key where
  | right
  | left
  | up
  | down
  | enter
  | escape
  | tab
  | backTab
  | backspace
  | delete
  | insert
  | home
  | endKey
  | pageUp
  | pageDown
  | null
  | char (c : Char)
  | function (n : UInt8)
  deriving DecidableEq

/-- A key that is pressed while modifiers are held. -/
structure KeyPress where
  key : Key
  control : Bool := false
  alt : Bool := false
  deriving DecidableEq

namespace Binding

/-- The key that a name stands for. -/
def key? (name : String) : Option Key :=
  match name with
  | "Right" => some .right
  | "Left" => some .left
  | "Up" => some .up
  | "Down" => some .down
  | "Enter" => some .enter
  | "Esc" => some .escape
  | "Space" => some (.char ' ')
  | "Tab" => some .tab
  | "Backspace" => some .backspace
  | "Delete" => some .delete
  | "Home" => some .home
  | "End" => some .endKey
  | _ =>
    match name.toList with
    | [c] => some (.char c)
    | 'F' :: number =>
      match readNat 256 (String.ofList number) with
      | .ok n => some (.function n.toUInt8)
      | .error _ => none
    | _ => none

/-- What follows a start of a text, if the text has that start. -/
def after? (start text : String) : Option String :=
  if start.toList.isPrefixOf text.toList then
    some (String.ofList (text.toList.drop start.length))
  else none

/-- The binding names this press. One without a modifier names no press with Control or Alt. -/
def names (binding : String) (press : KeyPress) : Bool :=
  match after? "Ctrl-" binding, after? "Alt-" binding with
  | some name, _ => press.control && key? name = some press.key
  | none, some name => press.alt && key? name = some press.key
  | none, none => !press.control && !press.alt && key? binding = some press.key

end Binding

end SpriteStage
