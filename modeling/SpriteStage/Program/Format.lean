import SpriteStage.Program.Basic
import SpriteStage.Block.Format

/-!
# Programs in JSON

Programs, stages and sprites are records: objects, or arrays of their fields in order. A stage that
is left out has the usual size and a script that is left out is empty. A block is an object with the
members of its instruction and its `id`.
-/

namespace SpriteStage

namespace SpriteId

/-- The JSON value of a sprite's id. -/
def encode (id : SpriteId) : Json := .int id.number.toNat

/-- The sprite's id of a JSON value. -/
def decode (j : Json) : Option SpriteId := (j.nat? UInt32.size).map fun n => ⟨n.toUInt32⟩

end SpriteId

namespace Block

/-- The JSON value of a block, its id first. -/
def encode (b : Block) : Json := .object (("id", .int b.id.number.toNat) :: b.instruction.members)

/-- The block of a JSON value. Its tag may be numbered. -/
def decode : Json → Option Block
  | .object members =>
    match Json.valuesOf "id" members with
    | [id] => do
      let number ← id.nat? UInt64.size
      let instruction ← Instruction.ofMembers? true (members.filter (·.1 != "id"))
      return ⟨⟨number.toUInt64⟩, instruction⟩
    | _ => none
  | _ => none

end Block

namespace Sprite

/-- The JSON value of a sprite. -/
def encode (s : Sprite) : Json :=
  .object [("id", s.id.encode), ("name", .text s.name), ("x", Json.ofFloat s.x),
    ("y", Json.ofFloat s.y), ("animations", .array (s.script.map Block.encode))]

/-- The sprite of a JSON value. -/
def decode (j : Json) : Option Sprite := do
  let field ← j.record? ["id", "name", "x", "y", "animations"]
  return {
    id := ← Json.required SpriteId.decode (field "id")
    name := ← Json.required Json.text? (field "name")
    x := ← Json.required Json.float? (field "x")
    y := ← Json.required Json.float? (field "y")
    script := ← Json.withDefault [] (Json.list? Block.decode) (field "animations") }

end Sprite

namespace StageSize

/-- The JSON value of a stage's size. -/
def encode (s : StageSize) : Json :=
  .object [("width", Json.ofFloat s.width), ("height", Json.ofFloat s.height)]

/-- The stage's size of a JSON value. -/
def decode (j : Json) : Option StageSize := do
  let field ← j.record? ["width", "height"]
  return {
    width := ← Json.required Json.float? (field "width")
    height := ← Json.required Json.float? (field "height") }

end StageSize

namespace Program

/-- The JSON value of a program. -/
def encode (p : Program) : Json :=
  .object [("stage", p.stage.encode), ("sprites", .array (p.sprites.map Sprite.encode))]

/-- The program of a JSON value. -/
def decode (j : Json) : Option Program := do
  let field ← j.record? ["stage", "sprites"]
  return {
    stage := ← Json.withDefault {} StageSize.decode (field "stage")
    sprites := ← Json.required (Json.list? Sprite.decode) (field "sprites") }

end Program

end SpriteStage
