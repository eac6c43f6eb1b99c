import SpriteStage.Json.Reader
import SpriteStage.Program.Format

/-!
# Program files

A program file holds the JSON text of a program. `Program.ofFile` reads one from what was found at
its path. Where there is no file yet, the program is `Program.starter`.

`Program.check` refuses a program in which an id is used more than once: a sprite's id among the
sprites, a block's id in its script. It names the first fault in the order of the program, and of
one sprite the sprite's own id before those of its blocks.
-/

namespace SpriteStage

/-! ## Ids that name one thing -/

/-- An id that does not name one thing. -/
inductive IdFault where
  | repeatedSprite (id : SpriteId)
  | repeatedBlock (sprite : SpriteId) (id : BlockId)
  deriving DecidableEq

/-- A sprite's id as it is written in messages. -/
def SpriteId.label (id : SpriteId) : String := "#" ++ toString id.number.toNat

/-- The text that tells of a fault. -/
def IdFault.message : IdFault → String
  | .repeatedSprite id => "sprite id " ++ id.label ++ " is used more than once"
  | .repeatedBlock sprite id =>
    "block id " ++ toString id.number.toNat ++ " is used more than once in sprite " ++ sprite.label

/-- The first item that is among those seen or among the items before it. -/
def firstRepeated? [DecidableEq α] (seen : List α) : List α → Option α
  | [] => none
  | a :: rest => if a ∈ seen then some a else firstRepeated? (a :: seen) rest

namespace Program

/-- The first fault of the sprites, when those seen came before them. -/
def firstFault? (seen : List SpriteId) : List Sprite → Option IdFault
  | [] => none
  | s :: rest =>
    if s.id ∈ seen then some (.repeatedSprite s.id)
    else
      match firstRepeated? [] (s.script.map (·.id)) with
      | some id => some (.repeatedBlock s.id id)
      | none => firstFault? (s.id :: seen) rest

/-- Whether every id of the program names one thing, and the first that does not. -/
def check (p : Program) : Except IdFault Unit :=
  match firstFault? [] p.sprites with
  | some fault => .error fault
  | none => .ok ()

end Program

/-! ## Files -/

/-- What is found at a path. -/
inductive FileContent where
  | missing
  | bytes (content : ByteArray)
  /-- Something is there and cannot be read, for the reason given. -/
  | unreadable (reason : String)

/-- The text of a file, none if its bytes are not UTF-8. -/
def FileContent.text? : FileContent → Option String
  | .bytes content => String.fromUTF8? content
  | _ => none

/-- Why a program file cannot be opened. -/
inductive OpenError where
  | read (reason : String)
  | parse
  | invalid (fault : IdFault)
  deriving DecidableEq

/-- The text that tells why the file at a path cannot be opened. -/
def OpenError.message (path : String) : OpenError → String
  | .read reason => "Failed to read " ++ path ++ ": " ++ reason
  | .parse => "Failed to parse " ++ path
  | .invalid fault => "Invalid program " ++ path ++ ": " ++ fault.message

/-- The program of a file. -/
def Program.ofFile : FileContent → Except OpenError Program
  | .missing => .ok .starter
  | .unreadable reason => .error (.read reason)
  | .bytes content =>
    match String.fromUTF8? content with
    | none => .error (.read "stream did not contain valid UTF-8")
    | some text =>
      match Json.ofText? text >>= Program.decode with
      | none => .error .parse
      | some program =>
        match program.check with
        | .error fault => .error (.invalid fault)
        | .ok _ => .ok program

end SpriteStage
