import SpriteStage.Canvas

/-!
# What is sent to a terminal

A `Terminal.Command` moves the cursor, clears, switches an attribute or prints, and `text` is the
escape sequence that says so to a terminal. Columns and rows are counted from zero here and from one
in the sequences.

An item of the menu bar is printed in parts. `Menu.segments` cuts it where brackets open and close.
A segment in brackets is bold, any other one is plain, and a bracket that never closes opens a plain
one.
-/

namespace SpriteStage.Menu

/-- A part of an item. -/
structure Segment where
  bold : Bool
  text : String
  deriving DecidableEq

/-- A plain segment, none if it has no text. -/
def plain (cs : List Char) : List Segment :=
  if cs.isEmpty then [] else [⟨false, String.ofList cs⟩]

/-- The segments of an item's characters. -/
def segmentsOf (cs : List Char) : List Segment :=
  match _h : cs.dropWhile (· ≠ '[') with
  | [] => plain cs
  | opening :: rest =>
    let before := plain (cs.takeWhile (· ≠ '['))
    match _h' : rest.dropWhile (· ≠ ']') with
    | [] => before ++ plain (opening :: rest)
    | closing :: after =>
      let inside := opening :: rest.takeWhile (· ≠ ']') ++ [closing]
      before ++ ⟨true, String.ofList inside⟩ :: segmentsOf after
  termination_by cs.length
  decreasing_by
    have h := congrArg List.length _h
    have h' := congrArg List.length _h'
    have := (List.dropWhile_sublist (· ≠ '[') (l := cs)).length_le
    have := (List.dropWhile_sublist (· ≠ ']') (l := rest)).length_le
    simp only [List.length_cons] at h h'
    omega

/-- The segments of an item. -/
def segments (item : String) : List Segment := segmentsOf item.toList

end SpriteStage.Menu

namespace SpriteStage.Terminal

/-- A way in which text is drawn until the next reset. -/
inductive Attribute where
  | reset
  | bold
  | dim
  | reverse
  deriving DecidableEq

/-- An instruction to a terminal. -/
inductive Command where
  | moveTo (column row : Nat)
  | clearAll
  | clearLine
  | attribute (a : Attribute)
  | print (text : String)
  /-- Prints in a style and then returns to none. -/
  | styled (style : Style) (text : String)
  | fullscreen (on : Bool)
  deriving DecidableEq

/-- An escape sequence. -/
def escape (body : String) : String := "\x1b[" ++ body

/-- The sequence of an attribute. -/
def Attribute.text : Attribute → String
  | .reset => escape "0m"
  | .bold => escape "1m"
  | .dim => escape "2m"
  | .reverse => escape "7m"

/-- The number of a color in sequences. -/
def colorCode : Color → String
  | .black => "5;0"
  | .red => "5;9"
  | .green => "5;10"
  | .yellow => "5;11"
  | .blue => "5;12"
  | .white => "5;15"
  | .rgb r g b => "2;" ++ toString r.toNat ++ ";" ++ toString g.toNat ++ ";" ++ toString b.toNat

/-- The sequence that puts a style on. -/
def styleOn (s : Style) : String :=
  (match s.background with | some c => escape ("48;" ++ colorCode c ++ "m") | none => "") ++
    (match s.foreground with | some c => escape ("38;" ++ colorCode c ++ "m") | none => "") ++
    (if s.bold then Attribute.text .bold else "") ++ (if s.dim then Attribute.text .dim else "")

/-- The sequence that takes a style off. -/
def styleOff (s : Style) : String :=
  if s.bold || s.dim then Attribute.text .reset
  else
    (if s.background.isSome then escape "49m" else "") ++
      (if s.foreground.isSome then escape "39m" else "")

/-- The sequence of a command. -/
def Command.text : Command → String
  | .moveTo column row => escape (toString (row + 1) ++ ";" ++ toString (column + 1) ++ "H")
  | .clearAll => escape "2J"
  | .clearLine => escape "2K"
  | .attribute a => a.text
  | .print text => text
  | .styled style text => styleOn style ++ text ++ styleOff style
  | .fullscreen on => escape (if on then "10;1t" else "10;0t")

/-- The sequences of commands, one after the other. -/
def text (commands : List Command) : String := String.join (commands.map (·.text))

/-- What is sent before anything is drawn: another screen, no cursor, and all clear. -/
def opening : String := escape "?1049h" ++ escape "?25l" ++ escape "2J"

/-- What is sent in the end: the cursor and the former screen return. -/
def closing : String := escape "?25h" ++ escape "?1049l"

/-- Prints a cell. -/
def printCell (c : Cell) : Command := .styled c.style (String.singleton c.char)

/-- Prints an item of the menu bar, with its bracketed parts bold and the others dim. -/
def printItem (item : String) : List Command :=
  (Menu.segments item).flatMap fun s =>
    [.attribute (if s.bold then .bold else .dim), .print s.text, .attribute .reset]

end SpriteStage.Terminal
