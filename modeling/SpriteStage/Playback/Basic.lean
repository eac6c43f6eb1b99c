import SpriteStage.Cast
import SpriteStage.Program.Format
import SpriteStage.Timer.Queue

/-!
# Playback

A `Playback` is everything that changes while a program plays: the clock, the cast, the pending
timers, what was seen of the program, and what is known of the last swap and the last click. It is
stopped, or runs a session with a schedule of bubbles. This module holds what it does without
touching the program; `Playback/Run` lets it play one.
-/

namespace SpriteStage

/-- The tempo of a playback. -/
structure PlaybackSettings where
  /-- The milliseconds between two ticks. -/
  tickMillis : UInt64 := 500
  /-- How near two sprites have to be on both axes to swap their scripts. -/
  swapDistance : Float := 40.0
  /-- The milliseconds for which a pair that swapped is highlighted. -/
  highlightMillis : UInt64 := 600
  /-- The seconds of a bubble that has none of its own. -/
  bubbleSeconds : Float := 2.0
  deriving DecidableEq

namespace PlaybackSettings

/-- The time between two ticks. It is never zero, so that ticks come to an end. -/
def tickInterval (s : PlaybackSettings) : Duration := .ofMillis (max s.tickMillis 1)

/-- How long a pair that swapped is highlighted. -/
def highlight (s : PlaybackSettings) : Duration := .ofMillis s.highlightMillis

end PlaybackSettings

/-- What a timer of a playback brings about. -/
inductive TimedEvent where
  | tick
  | bubble (sprite : SpriteId) (bubble : Option Bubble)
  | clearHighlight
  deriving DecidableEq

/-- What is told of a swap: the names of the two sprites and the time on the clock. -/
structure SwapNotice where
  left : String
  right : String
  millis : UInt64
  deriving DecidableEq

/-- A click on a block. A click with the stamp of the one before it is the same click. -/
structure Click where
  sprite : SpriteId
  instruction : Instruction
  stamp : UInt64
  deriving DecidableEq

namespace Click

/-- The JSON value of a click. -/
def encode (c : Click) : Json :=
  .object [("sprite_id", c.sprite.encode), ("block", c.instruction.encode),
    ("timestamp", .int c.stamp.toNat)]

/-- The click of a JSON value. -/
def decode (j : Json) : Option Click := do
  let field ← j.record? ["sprite_id", "block", "timestamp"]
  return {
    sprite := ← Json.required SpriteId.decode (field "sprite_id")
    instruction := ← Json.required Instruction.decode (field "block")
    stamp := (← Json.required (Json.nat? UInt64.size) (field "timestamp")).toUInt64 }

end Click

/-- Whether a playback runs. Ticks belong to the session, bubbles to the schedule. -/
inductive Mode where
  | stopped
  | running (session schedule : Token)
  deriving DecidableEq

/-- The state of a playback. -/
structure Playback where
  settings : PlaybackSettings
  mode : Mode
  clock : Duration
  viewport : Viewport
  cast : Cast
  queue : Queue TimedEvent
  lastToken : Token
  /-- The sprites as they were when they were last looked at. -/
  seen : List Sprite
  /-- The session has had its swap. -/
  swapLocked : Bool
  /-- The pair that is highlighted. -/
  highlighted : Option (SpriteId × SpriteId)
  lastSwap : Option SwapNotice
  lastStamp : Option UInt64
  /-- How many ticks there have been, counted in 64 bits. -/
  ticks : UInt64
  hues : Hues

namespace Playback

/-- A playback that has not seen a program yet. -/
def fresh (settings : PlaybackSettings) (seed : UInt64) : Playback where
  settings := settings
  mode := .stopped
  clock := .zero
  viewport := .unmeasured
  cast := .empty
  queue := .empty
  lastToken := ⟨0⟩
  seen := []
  swapLocked := false
  highlighted := none
  lastSwap := none
  lastStamp := none
  ticks := 0
  hues := .ofSeed seed

/-- A session is on. -/
def isRunning (p : Playback) : Bool :=
  match p.mode with
  | .running .. => true
  | .stopped => false

/-- The playback on a stage of another size. -/
def resize (p : Playback) (viewport : Viewport) : Playback := { p with viewport := viewport }

/-! ## Bubbles -/

/-- The queue with the cues of a schedule that starts at `start`. -/
def queueCues (start : Duration) (schedule : Token) (cues : List Cue) (q : Queue TimedEvent) :
    Queue TimedEvent :=
  cues.foldl (fun q cue => q.schedule (start + cue.time) schedule (.bubble cue.sprite cue.bubble)) q

/-- Starts the bubbles of the sprites seen anew, now, for a session. A schedule that was on before
is dropped. -/
def scheduleBubbles (p : Playback) (session : Token) : Playback :=
  let schedule := p.lastToken.next
  let queue := match p.mode with
    | .running _ old => p.queue.cancel old
    | .stopped => p.queue
  { p with
    mode := .running session schedule
    lastToken := schedule
    cast := p.cast.clearBubbles
    queue := queueCues p.clock schedule (cueSheet p.seen p.settings.bubbleSeconds) queue }

/-! ## Looking at the program -/

/-- Takes notice of a list of sprites that differs from the one seen: the cast follows it, a
highlight without one of its sprites ends, and running bubbles start anew. -/
def notice (p : Playback) (sprites : List Sprite) : Playback :=
  let gone := p.cast.departed sprites
  let p := { p with
    cast := p.cast.reconcile sprites
    highlighted := p.highlighted.filter fun pair => pair.1 ∉ gone ∧ pair.2 ∉ gone
    seen := sprites }
  match p.mode with
  | .running session _ => p.scheduleBubbles session
  | .stopped => p

/-- Looks at the sprites of the program. Nothing happens if they agree with what was seen. -/
def sync (p : Playback) (sprites : List Sprite) : Playback :=
  if spritesAgree p.seen sprites then p else p.notice sprites

/-! ## Sessions -/

/-- Begins a session with the sprites seen: every script may run and one swap may happen. -/
def start (p : Playback) : Playback :=
  let session := p.lastToken.next
  let every := p.settings.tickInterval
  scheduleBubbles { p with
    lastToken := session
    swapLocked := false
    cast := p.cast.resetRuns
    queue := p.queue.scheduleRepeating (p.clock + every) every session .tick } session

/-- Ends the session, if one is on, with its timers, its bubbles and its highlight. -/
def stop (p : Playback) : Playback :=
  match p.mode with
  | .stopped => p
  | .running session schedule =>
    { p with
      mode := .stopped
      queue := (p.queue.cancel session).cancel schedule
      cast := p.cast.clearBubbles
      highlighted := none }

/-! ## Clicks -/

/-- Carries out a click, unless it is the last one again. -/
def click (p : Playback) (c : Click) : Playback :=
  if p.lastStamp = some c.stamp then p
  else
    let p := { p with lastStamp := some c.stamp }
    match p.cast.get? c.sprite with
    | none => p
    | some actor =>
      let (actor, hues) := actor.click p.viewport c.instruction p.hues
      { p with cast := p.cast.modify c.sprite fun _ => actor, hues := hues }

/-! ## What there is to see -/

/-- The views of the sprites seen, in their order. -/
def views (p : Playback) : List View := p.seen.filterMap fun s => p.cast.view? s.id

/-- The time until the next timer fires. -/
def nextDeadline? (p : Playback) : Option Duration := p.queue.nextDue?.map (· - p.clock)

end Playback

end SpriteStage
