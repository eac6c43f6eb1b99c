import SpriteStage.Json.Reader
import SpriteStage.Playback.Basic
import SpriteStage.Program.File

/-!
# Settings

`Settings` are the key bindings and the tempo of playback. In JSON they are records whose fields all
have defaults, so any part may be left out.
-/

namespace SpriteStage

/-- The keys of the stage, as texts that name them. -/
structure KeyBindings where
  togglePlay : String := "Space"
  nextSprite : String := "Tab"
  newSprite : String := "n"
  blockUp : String := "Up"
  blockDown : String := "Down"
  palettePrevious : String := "Left"
  paletteNext : String := "Right"
  addBlock : String := "a"
  removeBlock : String := "d"
  increase : String := "+"
  decrease : String := "-"
  clickBlock : String := "Enter"
  quit : String := "q"
  fullscreen : String := "F11"
  deriving DecidableEq

/-- All that a user can set. -/
structure Settings where
  keys : KeyBindings := {}
  playback : PlaybackSettings := {}
  deriving DecidableEq

namespace KeyBindings

/-- The names of the bindings' fields in their order. -/
def fieldNames : List String :=
  ["toggle_play", "next_sprite", "new_sprite", "block_up", "block_down", "palette_prev",
    "palette_next", "add_block", "remove_block", "increase", "decrease", "click_block", "quit",
    "fullscreen"]

/-- The JSON value of bindings. -/
def encode (k : KeyBindings) : Json :=
  .object (fieldNames.zip ([k.togglePlay, k.nextSprite, k.newSprite, k.blockUp, k.blockDown,
    k.palettePrevious, k.paletteNext, k.addBlock, k.removeBlock, k.increase, k.decrease,
    k.clickBlock, k.quit, k.fullscreen].map Json.text))

/-- The bindings of a JSON value. -/
def decode (j : Json) : Option KeyBindings := do
  let field ← j.record? fieldNames
  let usual : KeyBindings := {}
  let key (default name : String) : Option String :=
    Json.withDefault default Json.text? (field name)
  return {
    togglePlay := ← key usual.togglePlay "toggle_play"
    nextSprite := ← key usual.nextSprite "next_sprite"
    newSprite := ← key usual.newSprite "new_sprite"
    blockUp := ← key usual.blockUp "block_up"
    blockDown := ← key usual.blockDown "block_down"
    palettePrevious := ← key usual.palettePrevious "palette_prev"
    paletteNext := ← key usual.paletteNext "palette_next"
    addBlock := ← key usual.addBlock "add_block"
    removeBlock := ← key usual.removeBlock "remove_block"
    increase := ← key usual.increase "increase"
    decrease := ← key usual.decrease "decrease"
    clickBlock := ← key usual.clickBlock "click_block"
    quit := ← key usual.quit "quit"
    fullscreen := ← key usual.fullscreen "fullscreen" }

end KeyBindings

namespace PlaybackSettings

/-- The names of the settings' fields in their order. -/
def fieldNames : List String :=
  ["tick_interval_ms", "collision_distance", "highlight_ms", "default_bubble_seconds"]

/-- The JSON value of playback settings. -/
def encode (s : PlaybackSettings) : Json :=
  .object [("tick_interval_ms", .int s.tickMillis.toNat),
    ("collision_distance", Json.ofFloat s.swapDistance),
    ("highlight_ms", .int s.highlightMillis.toNat),
    ("default_bubble_seconds", Json.ofFloat s.bubbleSeconds)]

/-- The playback settings of a JSON value. -/
def decode (j : Json) : Option PlaybackSettings := do
  let field ← j.record? fieldNames
  let usual : PlaybackSettings := {}
  let millis (j : Json) : Option UInt64 := (j.nat? UInt64.size).map (·.toUInt64)
  return {
    tickMillis := ← Json.withDefault usual.tickMillis millis (field "tick_interval_ms")
    swapDistance := ←
      Json.withDefault usual.swapDistance Json.float? (field "collision_distance")
    highlightMillis := ← Json.withDefault usual.highlightMillis millis (field "highlight_ms")
    bubbleSeconds := ←
      Json.withDefault usual.bubbleSeconds Json.float? (field "default_bubble_seconds") }

end PlaybackSettings

namespace Settings

/-- The JSON value of settings. -/
def encode (s : Settings) : Json :=
  .object [("key_bindings", s.keys.encode), ("engine", s.playback.encode)]

/-- The settings of a JSON value. -/
def decode (j : Json) : Option Settings := do
  let field ← j.record? ["key_bindings", "engine"]
  return {
    keys := ← Json.withDefault {} KeyBindings.decode (field "key_bindings")
    playback := ← Json.withDefault {} PlaybackSettings.decode (field "engine") }

/-- The settings of a file: the usual ones if no text can be read from it, and none if its text
holds no settings. -/
def ofFile? (file : FileContent) : Option Settings :=
  match file.text? with
  | none => some {}
  | some text => Json.ofText? text >>= decode

end Settings

end SpriteStage
