import SpriteStage.Json.Writer
import SpriteStage.Studio.Basic

/-!
# The command line

`CommandLine.parse` reads the arguments: `run` opens the stage on a terminal, and `simulate` plays a
program for some time without one and reports. What is found in files is handed in as `FileContent`,
so `simulate` and `openStudio` say all that is done with it. An `Outcome` is what a finished command
leaves. Files, chance and the terminal are a `System`, on which `System.execute` does what the
arguments ask for.
-/

namespace SpriteStage

namespace CommandLine

/-- How `run` is called. -/
def runUsage : String := "block-sandbox run <program.json> [--log <file>]"

/-- How `simulate` is called. -/
def simulateUsage : String := "block-sandbox simulate <program.json> <millis> [--seed <n>]"

/-- What the arguments ask for. -/
inductive Command where
  | run (path : String) (log : Option String)
  | simulate (path : String) (millis : UInt64) (seed : Option UInt64)
  deriving DecidableEq

/-- Why the arguments ask for nothing that can be done. -/
inductive Fault where
  /-- Neither `run` nor `simulate`. -/
  | noCommand
  /-- An argument is missing, in a command of this usage. -/
  | missing (usage : String)
  | unexpected (argument usage : String)
  | millis (reason : NatError)
  | seed (reason : NatError)
  deriving DecidableEq

/-- The text that tells of a fault. -/
def Fault.message : Fault → String
  | .noCommand =>
    "Block Sandbox: sprite scripts on a terminal stage\n\nUsage:\n  " ++ runUsage ++ "\n  " ++
      simulateUsage
  | .missing usage => usage
  | .unexpected argument usage =>
    "Unexpected argument " ++ argument ++ "\n\nUsage:\n  " ++ usage
  | .millis reason => "millis must be a whole number: " ++ reason.message
  | .seed reason => "seed must be a whole number: " ++ reason.message

/-- The value of a flag that may follow, with all that comes after it left unread. -/
def flagValue (flag usage : String) : List String → Except Fault (Option String)
  | [] => .ok none
  | first :: rest =>
    if first = flag then
      match rest with
      | value :: _ => .ok (some value)
      | [] => .error (.missing usage)
    else .error (.unexpected first usage)

/-- Reads a word of 64 bits, with a fault for a text that is none. -/
def readWord (fault : NatError → Fault) (text : String) : Except Fault UInt64 :=
  match readNat UInt64.size text with
  | .ok n => .ok n.toUInt64
  | .error reason => .error (fault reason)

/-- What the arguments ask for. -/
def parse : List String → Except Fault Command
  | "run" :: rest =>
    match rest with
    | [] => .error (.missing runUsage)
    | path :: rest => do return .run path (← flagValue "--log" runUsage rest)
  | "simulate" :: rest =>
    match rest with
    | path :: millis :: rest => do
      let millis ← readWord .millis millis
      match ← flagValue "--seed" simulateUsage rest with
      | none => return .simulate path millis none
      | some seed => return .simulate path millis (some (← readWord .seed seed))
    | _ => .error (.missing simulateUsage)
  | _ => .error .noCommand

/-! ## Outcomes -/

/-- The exit code of a finished command and what it wrote. -/
structure Outcome where
  code : UInt32
  stdout : String
  stderr : String
  deriving DecidableEq

/-- A command that failed for a reason. -/
def Outcome.failed (reason : String) : Outcome := ⟨1, "", "Error: " ++ reason ++ "\n"⟩

/-- The text that tells of a settings file that holds no settings. -/
def settingsWarning : String :=
  "Warning: invalid sandbox config (not a configuration), using defaults\n"

/-- The settings of a file, or the usual ones with a warning. -/
def loadSettings (file : FileContent) : Settings × String :=
  match Settings.ofFile? file with
  | some settings => (settings, "")
  | none => ({}, settingsWarning)

/-- The text for a log file that cannot be created. -/
def logFault (path reason : String) : String := "Failed to create " ++ path ++ ": " ++ reason

/-- The studio for a program file and a settings file, with what is to be written before it opens,
or the outcome if the program cannot be opened. -/
def openStudio (path : String) (program settings : FileContent) (seed : UInt64) :
    Except Outcome (Studio × String) :=
  match Program.ofFile program with
  | .error e => .error (.failed (e.message path))
  | .ok program =>
    let (settings, warning) := loadSettings settings
    .ok (.enter program settings seed, warning)

/-! ## Simulation -/

/-- A program after it has been played for some time on a stage of its own size. -/
def played (program : Program) (settings : PlaybackSettings) (seed millis : UInt64) : Run :=
  let stage : Viewport := ⟨program.stage.width, program.stage.height⟩
  Run.advance (Run.play ⟨(Playback.fresh settings seed).resize stage, program⟩) (.ofMillis millis)

/-- The JSON value of a bubble. -/
def encodeBubble (b : Bubble) : Json :=
  .object [("kind", .text (match b.kind with | .say => "say" | .think => "think")),
    ("message", .text b.message)]

/-- The JSON value of a view. -/
def encodeView (v : View) : Json :=
  .object ([("id", v.id.encode),
    ("position", .object [("x", Json.ofFloat v.position.x), ("y", Json.ofFloat v.position.y)]),
    ("angle", Json.ofFloat v.angle),
    ("visual", .object [("visible", .bool v.looks.visible), ("size", Json.ofFloat v.looks.size),
      ("color", Json.ofFloat v.looks.color)])] ++ Json.member "bubble" encodeBubble v.bubble)

/-- The JSON value of a swap notice. -/
def encodeSwap (s : SwapNotice) : Json :=
  .object [("left_name", .text s.left), ("right_name", .text s.right),
    ("timestamp_ms", .int s.millis.toNat)]

/-- The report of a playback. -/
def report (p : Playback) : Json :=
  .object ([("elapsed_ms", .int p.clock.asMillis.toNat), ("ticks", .int p.ticks.toNat),
    ("sprites", .array (p.views.map encodeView))] ++ Json.member "last_swap" encodeSwap p.lastSwap)

/-- Plays a program file and reports. -/
def simulate (path : String) (program settings : FileContent) (millis seed : UInt64) : Outcome :=
  match Program.ofFile program with
  | .error e => .failed (e.message path)
  | .ok program =>
    let (settings, warning) := loadSettings settings
    let run := played program settings.playback seed millis
    ⟨0, (report run.playback).pretty ++ "\n", warning⟩

/-! ## Carrying out a command -/

/-- What a command asks of the system around it. -/
structure System (m : Type → Type) where
  /-- What is found at a path. -/
  findFile : (path : String) → m FileContent
  /-- What is found where the settings are kept. -/
  findSettings : m FileContent
  randomWord : m UInt64
  /-- Creates a log file, or answers why it cannot be created. -/
  createLog : (path : String) → m (Option String)
  /-- Opens a studio on the terminal and answers when it is left. -/
  openConsole : Studio → m Unit
  write : (stdout stderr : String) → m Unit

namespace System

variable {m : Type → Type} [Monad m] (s : System m)

/-- Writes an outcome and answers its code. -/
def leave (o : Outcome) : m UInt32 := do
  s.write o.stdout o.stderr
  return o.code

/-- Plays a program file and reports. Without a seed it plays by chance. -/
def simulate (path : String) (millis : UInt64) (seed : Option UInt64) : m UInt32 := do
  let seed ← match seed with
    | some seed => pure seed
    | none => s.randomWord
  s.leave (CommandLine.simulate path (← s.findFile path) (← s.findSettings) millis seed)

/-- Opens the stage for a program file on the terminal. -/
def openStage (path : String) : m UInt32 := do
  match openStudio path (← s.findFile path) (← s.findSettings) (← s.randomWord) with
  | .error outcome => s.leave outcome
  | .ok (studio, warning) =>
    s.write "" warning
    s.openConsole studio
    return 0

/-- Carries out a command and answers the exit code. -/
def perform : Command → m UInt32
  | .simulate path millis seed => s.simulate path millis seed
  | .run path none => s.openStage path
  | .run path (some file) => do
    match ← s.createLog file with
    | none => s.openStage path
    | some reason => s.leave (.failed (logFault file reason))

/-- Does what the arguments ask for and answers the exit code. -/
def execute (args : List String) : m UInt32 :=
  match parse args with
  | .ok command => s.perform command
  | .error fault => s.leave (.failed fault.message)

end System

end CommandLine

end SpriteStage
