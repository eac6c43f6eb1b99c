import SpriteStage.CommandLine
import SpriteStage.Console
import SpriteStage.Terminal.Keys
import Std.Time.DateTime.Timestamp

/-!
# The program

The system that `CommandLine` and `Console` run on: it reads files, the clock and the terminal, and
writes what they answer. The terminal has to be in raw mode already. Its size is taken from the
variables `COLUMNS` and `LINES`.
-/

namespace SpriteStage.Shell

/-- Why the system refuses, as it is written in messages. -/
def reasonOf : IO.Error → String
  | .noFileOrDirectory .. => "No such file or directory (os error 2)"
  | .permissionDenied .. => "Permission denied (os error 13)"
  | .inappropriateType _ 21 _ => "Is a directory (os error 21)"
  | .inappropriateType .. => "Not a directory (os error 20)"
  | e => toString e

/-- What is found at a path. -/
def findFile (path : String) : IO FileContent := do
  try
    return .bytes (← IO.FS.readBinFile path)
  catch
    | .noFileOrDirectory .. => return .missing
    | .inappropriateType name code details =>
      if code = 21 then return .unreadable (reasonOf (.inappropriateType name code details))
      else return .missing
    | e => return .unreadable (reasonOf e)

/-- What is found where the settings are kept. -/
def findSettings : IO FileContent := do
  findFile ((← IO.getEnv "HOME").getD "." ++ "/.config/block-sandbox/config.json")

/-- A random word. -/
def randomWord : IO UInt64 := do
  return (← IO.getRandomBytes 8).foldl (fun n b => n * 256 + b.toUInt64) 0

/-- The clock and chance, as they are now. -/
def currentMoment : IO Moment := do
  let now ← Std.Time.Timestamp.now
  return ⟨now.toMillisecondsSinceUnixEpoch.val.toNat.toUInt64, (← randomWord) % 1024⟩

/-- A number of 16 bits from a variable of the environment. -/
def sizeFromEnvironment (name : String) (default : UInt16) : IO UInt16 := do
  match readNat UInt16.size ((← IO.getEnv name).getD "") with
  | .ok n => return n.toUInt16
  | .error _ => return default

/-- Puts what the terminal sends into a store, until it sends no more. -/
partial def listen (input : IO.FS.Stream) (store : IO.Ref (List (Option KeyPress))) : IO Unit := do
  let bytes ← input.read 256
  if bytes.isEmpty then store.modify (· ++ [none])
  else
    let text := (String.fromUTF8? bytes).getD ""
    store.modify (· ++ (Terminal.keys text.toList).map some)
    listen input store

/-- The next key that was sent, if one comes in time. -/
partial def nextKey (store : IO.Ref (List (Option KeyPress))) (millis : Nat) :
    IO (Option (Option KeyPress)) := do
  match ← store.modifyGet fun keys => (keys.head?, keys.drop 1) with
  | some key => return some key
  | none =>
    if millis = 0 then return none
    IO.sleep 1
    nextKey store (millis - 1)

/-- The turns of a console, until a key or the end of the input ends them. -/
partial def play (output : IO.FS.Stream) (store : IO.Ref (List (Option KeyPress)))
    (size : ScreenSize) (c : Console) (last : Nat) : IO Unit := do
  match ← nextKey store (c.wait.asMillis.toNat + 1) with
  | some none => return
  | key =>
    let event := key.join.map fun press => Event.key press .press
    let now ← IO.monoNanosNow
    match c.step size (← currentMoment) event (.ofNanos (now - last)) with
    | .ended _ => return
    | .next c commands =>
      output.putStr (Terminal.text commands)
      output.flush
      play output store size c now

/-- Opens a studio on the terminal. -/
def openConsole (studio : Studio) : IO Unit := do
  let output ← IO.getStdout
  let size : ScreenSize := ⟨← sizeFromEnvironment "COLUMNS" 80, ← sizeFromEnvironment "LINES" 24⟩
  let store ← IO.mkRef []
  let _ ← IO.asTask (listen (← IO.getStdin) store) .dedicated
  let (console, commands) := (Console.start studio).redraw size
  output.putStr (Terminal.opening ++ Terminal.text commands)
  output.flush
  try
    play output store size console (← IO.monoNanosNow)
  finally
    output.putStr Terminal.closing
    output.flush

/-- Creates a log file, or answers why it cannot be created. -/
def createLog (path : String) : IO (Option String) := do
  try
    IO.FS.writeFile path ""
    return none
  catch e => return some (reasonOf e)

/-- The system that the program runs on. -/
def system : CommandLine.System IO where
  findFile := findFile
  findSettings := findSettings
  randomWord := randomWord
  createLog := createLog
  openConsole := openConsole
  write stdout stderr := do
    IO.print stdout
    IO.eprint stderr

end SpriteStage.Shell

def main (args : List String) : IO UInt32 := SpriteStage.Shell.system.execute args
