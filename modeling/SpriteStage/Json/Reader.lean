import SpriteStage.Json.Token

/-!
# Reading a JSON text

`Json.ofText?` builds the tree of a text from its tokens. The tokens are taken one after the other
by `Reader.step`, on a stack of the containers that are still open, so nesting of any depth is
read. A container deeper than `Json.deepest` and an object with an unreadable name close as
`unreadable`.
-/

namespace SpriteStage.Json

/-- A container that is still open, with what it holds so far, latest first. -/
inductive Frame where
  | array (items : List Json)
  | object (members : List (String × Json)) (readable : Bool)
  /-- An object with a name that waits for its value, `none` when the name is unreadable. -/
  | member (members : List (String × Json)) (readable : Bool) (name : Option String)

/-- What may come next. -/
inductive Expected where
  | value
  /-- A value, or the end of the array that was just begun. -/
  | firstItem
  /-- A name, or the end of the object that was just begun. -/
  | firstName
  | name
  | colon
  /-- A comma, or the end of the container. -/
  | separator
  | nothing

/-- A text read so far: the open containers, innermost first, their number, and the value that was
read last. -/
structure Reader where
  expected : Expected
  frames : List Frame
  depth : Nat
  last : Json

namespace Reader

/-- Nothing read yet. -/
def start : Reader := ⟨.value, [], 0, .null⟩

/-- A container begins. -/
def push (r : Reader) (expected : Expected) (frame : Frame) : Reader :=
  { r with expected := expected, frames := frame :: r.frames, depth := r.depth + 1 }

/-- A value is complete: it goes into the innermost container or, outside of all, ends the text. -/
def complete (r : Reader) (j : Json) : Option Reader :=
  match r.frames with
  | [] => some { r with expected := .nothing, last := j }
  | .array items :: rest =>
    some { r with expected := .separator, frames := .array (j :: items) :: rest }
  | .member members readable (some name) :: rest =>
    some { r with
      expected := .separator
      frames := .object ((name, j) :: members) readable :: rest }
  | .member members _ none :: rest =>
    some { r with expected := .separator, frames := .object members false :: rest }
  | .object .. :: _ => none

/-- The innermost container ends with a bracket for arrays or for objects. -/
def close (r : Reader) (forArray : Bool) : Option Reader :=
  let outer (rest : List Frame) : Reader := { r with frames := rest, depth := r.depth - 1 }
  match r.frames, forArray with
  | .array items :: rest, true =>
    (outer rest).complete (if r.depth ≤ deepest then .array items.reverse else .unreadable)
  | .object members readable :: rest, false =>
    (outer rest).complete
      (if r.depth ≤ deepest ∧ readable then .object members.reverse else .unreadable)
  | _, _ => none

/-- A value begins or, if it is a scalar, is read. -/
def value (r : Reader) : Token → Option Reader
  | .beginArray => some (r.push .firstItem (.array []))
  | .beginObject => some (r.push .firstName (.object [] true))
  | .string (some s) => r.complete (.text s)
  | .string none => r.complete .unreadable
  | .scalar j => r.complete j
  | _ => none

/-- The name of a member is read. -/
def memberName (r : Reader) (name : Option String) : Option Reader :=
  match r.frames with
  | .object members readable :: rest =>
    some { r with expected := .colon, frames := .member members readable name :: rest }
  | _ => none

/-- One token more. -/
def step (r : Reader) (t : Token) : Option Reader :=
  match r.expected, t with
  | .value, t => r.value t
  | .firstItem, .endArray => r.close true
  | .firstItem, t => r.value t
  | .firstName, .endObject => r.close false
  | .firstName, .string s => r.memberName s
  | .name, .string s => r.memberName s
  | .colon, .colon => some { r with expected := .value }
  | .separator, .endArray => r.close true
  | .separator, .endObject => r.close false
  | .separator, .comma =>
    match r.frames with
    | .array _ :: _ => some { r with expected := .value }
    | .object .. :: _ => some { r with expected := .name }
    | _ => none
  | _, _ => none

/-- The value, if a text that was read so far may end. -/
def result? (r : Reader) : Option Json :=
  match r.expected with
  | .nothing => some r.last
  | _ => none

end Reader

/-- The value of a sequence of tokens. -/
def ofTokens? (tokens : List Token) : Option Json := do
  (← tokens.foldlM Reader.step Reader.start).result?

/-- The value of a text, if it keeps the grammar of JSON. -/
def ofText? (text : String) : Option Json := do
  ofTokens? (← Token.ofText? text)

end SpriteStage.Json
