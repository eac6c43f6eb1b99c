import SpriteStage.Block.Instruction
import SpriteStage.Json.Basic

/-!
# Instructions in JSON

An instruction is an object whose member `type` holds its tag, next to members for the fields that
are set. All other members are skipped, but they have to be readable, because the tag may come after
them. An instruction that stands by itself may also be an array: the tag and then the fields.
-/

namespace SpriteStage

namespace Instruction

/-- The tags, in the order in which they are numbered. -/
def tags : List String :=
  ["move", "turn", "goto", "say", "think", "show", "hide", "changeColor", "setColor",
    "clearEffects", "changeSizeBy", "setSizeTo", "repeat"]

/-- The tag of an instruction. -/
def tag : Instruction → String
  | .move _ => "move"
  | .turn _ => "turn"
  | .goto _ _ => "goto"
  | .bubble .say _ _ => "say"
  | .bubble .think _ _ => "think"
  | .reveal => "show"
  | .hide => "hide"
  | .changeColor _ => "changeColor"
  | .setColor _ => "setColor"
  | .clearEffects => "clearEffects"
  | .changeSizeBy _ => "changeSizeBy"
  | .setSizeTo _ => "setSizeTo"
  | .forever => "repeat"

/-! ## Encoding -/

/-- The members for the fields that are set. -/
def fieldMembers : Instruction → List (String × Json)
  | .move steps => Json.member "steps" Json.ofFloat steps
  | .turn degrees => Json.member "degrees" Json.ofFloat degrees
  | .goto x y => Json.member "x" Json.ofFloat x ++ Json.member "y" Json.ofFloat y
  | .bubble _ message seconds =>
    Json.member "message" Json.text message ++ Json.member "seconds" Json.ofFloat seconds
  | .changeColor amount => Json.member "amount" Json.ofFloat amount
  | .setColor value => Json.member "value" Json.ofFloat value
  | .changeSizeBy amount => Json.member "amount" Json.ofFloat amount
  | .setSizeTo value => Json.member "value" Json.ofFloat value
  | .reveal | .hide | .clearEffects | .forever => []

/-- The members of an instruction, its tag first. -/
def members (i : Instruction) : List (String × Json) :=
  ("type", .text i.tag) :: i.fieldMembers

/-- The JSON value of an instruction. -/
def encode (i : Instruction) : Json := .object i.members

/-! ## Decoding -/

/-- The instruction with a tag and the fields of a record. -/
def ofTag? (tag : String) (fields : Json) : Option Instruction :=
  let number := Json.optional Json.float?
  let text := Json.optional Json.text?
  match tag with
  | "move" => do
    let field ← fields.record? ["steps"]
    return .move (← number (field "steps"))
  | "turn" => do
    let field ← fields.record? ["degrees"]
    return .turn (← number (field "degrees"))
  | "goto" => do
    let field ← fields.record? ["x", "y"]
    return .goto (← number (field "x")) (← number (field "y"))
  | "say" => do
    let field ← fields.record? ["message", "seconds"]
    return .bubble .say (← text (field "message")) (← number (field "seconds"))
  | "think" => do
    let field ← fields.record? ["message", "seconds"]
    return .bubble .think (← text (field "message")) (← number (field "seconds"))
  | "show" => (fields.record? []).map fun _ => .reveal
  | "hide" => (fields.record? []).map fun _ => .hide
  | "changeColor" => do
    let field ← fields.record? ["amount"]
    return .changeColor (← number (field "amount"))
  | "setColor" => do
    let field ← fields.record? ["value"]
    return .setColor (← number (field "value"))
  | "clearEffects" => (fields.record? []).map fun _ => .clearEffects
  | "changeSizeBy" => do
    let field ← fields.record? ["amount"]
    return .changeSizeBy (← number (field "amount"))
  | "setSizeTo" => do
    let field ← fields.record? ["value"]
    return .setSizeTo (← number (field "value"))
  | "repeat" => (fields.record? []).map fun _ => .forever
  | _ => none

/-- The tag that a member `type` holds: its text or, where tags may be numbered, its number. -/
def tagOf? (numbered : Bool) : Json → Option String
  | .text tag => some tag
  | .int n => if numbered ∧ 0 ≤ n then tags[n.toNat]? else none
  | _ => none

/-- The instruction of an object's members. -/
def ofMembers? (numbered : Bool) (members : List (String × Json)) : Option Instruction :=
  match Json.valuesOf "type" members with
  | [tag] => do
    if Json.membersReadable members then
      ofTag? (← tagOf? numbered tag) (.object (members.filter (·.1 != "type")))
    else none
  | _ => none

/-- The instruction that stands by itself as a JSON value. -/
def decode : Json → Option Instruction
  | .object members => ofMembers? false members
  | .array (tag :: fields) => do
    if Json.areReadable fields then ofTag? (← tagOf? false tag) (.array fields) else none
  | _ => none

end Instruction

namespace Patch

/-- The names of a patch's fields in their order. -/
def fieldNames : List String :=
  ["steps", "degrees", "x", "y", "message", "seconds", "amount", "value"]

/-- The JSON value of a patch, with members for the fields that are set. -/
def encode (p : Patch) : Json :=
  .object (Json.member "steps" Json.ofFloat p.steps ++
    Json.member "degrees" Json.ofFloat p.degrees ++
    Json.member "x" Json.ofFloat p.x ++ Json.member "y" Json.ofFloat p.y ++
    Json.member "message" Json.text p.message ++ Json.member "seconds" Json.ofFloat p.seconds ++
    Json.member "amount" Json.ofFloat p.amount ++ Json.member "value" Json.ofFloat p.value)

/-- The patch of a JSON value. -/
def decode (j : Json) : Option Patch := do
  let field ← j.record? fieldNames
  let number (name : String) := Json.optional Json.float? (field name)
  return {
    steps := ← number "steps"
    degrees := ← number "degrees"
    x := ← number "x"
    y := ← number "y"
    message := ← Json.optional Json.text? (field "message")
    seconds := ← number "seconds"
    amount := ← number "amount"
    value := ← number "value" }

end Patch

end SpriteStage
