import SpriteStage.Json.Basic

/-!
# The tokens of a JSON text

`Json.Token.ofText?` cuts a text into brackets, separators, strings and other scalars, with the
white space between them dropped. A text that breaks the grammar of a token has no tokens. Strings
and numbers that keep the grammar and have no value are cut like all others and marked as
unreadable.
-/

namespace SpriteStage.Json

/-- A token. A string without a readable text is `string none`. -/
inductive Token where
  | beginArray
  | endArray
  | beginObject
  | endObject
  | colon
  | comma
  | string (text : Option String)
  | scalar (value : Json)
  deriving Inhabited

/-! ## Numbers -/

/-- The written parts of a number. -/
structure NumberText where
  negative : Bool
  whole : List Char
  fraction : Option (List Char)
  exponent : Option (Bool × List Char)

/-- The value of a decimal digit. -/
def digit (c : Char) : Nat := c.toNat - '0'.toNat

/-- A run of digits with at least one, and what follows it. -/
def digitsThen (cs : List Char) : Option (List Char × List Char) :=
  match cs.takeWhile Char.isDigit with
  | [] => none
  | run => some (run, cs.dropWhile Char.isDigit)

/-- The parts of a number: digits without a leading zero, then perhaps a fraction and an exponent,
each with at least one digit. -/
def NumberText.ofChars? (cs : List Char) : Option NumberText := do
  let (negative, cs) := match cs with
    | '-' :: rest => (true, rest)
    | _ => (false, cs)
  let (whole, cs) ← digitsThen cs
  if whole.head? = some '0' ∧ whole.length ≠ 1 then none
  let (fraction, cs) ← match cs with
    | '.' :: rest => do
      let (run, rest) ← digitsThen rest
      pure (some run, rest)
    | _ => pure (none, cs)
  let (exponent, cs) ← match cs with
    | c :: rest =>
      if c = 'e' ∨ c = 'E' then do
        let (negative, rest) := match rest with
          | '+' :: more => (false, more)
          | '-' :: more => (true, more)
          | _ => (false, rest)
        let (run, rest) ← digitsThen rest
        pure (some (negative, run), rest)
      else none
    | [] => pure (none, [])
  if cs.isEmpty then some ⟨negative, whole, fraction, exponent⟩ else none

/-- Digits gathered into a number while it stays below `limit`, and the digits left over. -/
def gather (limit : Nat) : (sofar : Nat) → List Char → Nat × List Char
  | n, [] => (n, [])
  | n, c :: rest =>
    if 10 * n + digit c < limit then gather limit (10 * n + digit c) rest else (n, c :: rest)

/-- The power of ten as a double, exact up to `10 ^ 22` and nearest beyond. -/
def powerOfTen (n : Nat) : Float := Float.ofScientific 1 false n

/-- `x / 10 ^ n`, in steps of at most `10 ^ 308`. -/
def scaleDown (x : Float) (n : Nat) : Float :=
  if n ≤ 308 then x / powerOfTen n
  else if x == 0.0 then x
  else scaleDown (x / powerOfTen 308) (n - 308)
  termination_by n

/-- `significand * 10 ^ exponent`, by one multiplication or division of doubles where one does. A
product past the doubles is none. -/
def scaled? (significand : Nat) (exponent : Int) : Option Float :=
  let x := significand.toUInt64.toFloat
  if exponent < 0 then some (scaleDown x exponent.natAbs)
  else if exponent ≤ 308 then
    let product := x * powerOfTen exponent.toNat
    if product.isFinite then some product else none
  else if significand = 0 then some x
  else none

/-- The value of a number. Without fraction and exponent it is an integer if it lies in range and
is not `-0`. Otherwise the leading digits, as many as stay below `2 ^ 64`, are scaled by what the
exponent and the other digits of the whole part say. -/
def NumberText.value (t : NumberText) : Json :=
  let signed (x : Float) : Json := .real (if t.negative then -x else x)
  let (leading, more) := gather UInt64.size 0 t.whole
  if t.fraction.isNone ∧ t.exponent.isNone ∧ more.isEmpty ∧
      (if t.negative then 0 < leading ∧ leading ≤ 0x8000000000000000 else True) then
    .int (if t.negative then -leading else leading)
  else
    let (significand, unread) := gather UInt64.size leading (t.fraction.getD [])
    let places : Int := (t.fraction.getD []).length - unread.length
    let (exponent, beyond) := match t.exponent with
      | none => ((0 : Int), ([] : List Char))
      | some (negative, run) =>
        let (size, beyond) := gather 0x80000000 0 run
        (if negative then -size else size, beyond)
    if beyond.isEmpty then
      let total := max (-0x80000000) (min 0x7fffffff (more.length - places + exponent))
      match scaled? significand total with
      | some x => signed x
      | none => .unreadable
    else if significand ≠ 0 ∧ 0 ≤ exponent then .unreadable
    else signed 0.0

/-! ## Strings -/

/-- The value of a hexadecimal digit. -/
def hexDigit? (c : Char) : Option Nat :=
  if '0' ≤ c ∧ c ≤ '9' then some (c.toNat - '0'.toNat)
  else if 'a' ≤ c ∧ c ≤ 'f' then some (c.toNat - 'a'.toNat + 10)
  else if 'A' ≤ c ∧ c ≤ 'F' then some (c.toNat - 'A'.toNat + 10)
  else none

/-- The code unit of four hexadecimal digits. -/
def codeUnit? (a b c d : Char) : Option Nat := do
  return 4096 * (← hexDigit? a) + 256 * (← hexDigit? b) + 16 * (← hexDigit? c) + (← hexDigit? d)

/-- The character of an escape of two characters. -/
def shortEscape? : Char → Option Char
  | '"' => some '"'
  | '\\' => some '\\'
  | '/' => some '/'
  | 'b' => some '\x08'
  | 'f' => some '\x0c'
  | 'n' => some '\n'
  | 'r' => some '\r'
  | 't' => some '\t'
  | _ => none

/-- One unit of a string as it is written: a character, or one half of a surrogate pair. -/
inductive Unit16 where
  | char (c : Char)
  | high (n : Nat)
  | low (n : Nat)

/-- The unit that an escape of four hexadecimal digits stands for. -/
def Unit16.ofCode (n : Nat) : Unit16 :=
  if 0xD800 ≤ n ∧ n < 0xDC00 then .high (n - 0xD800)
  else if 0xDC00 ≤ n ∧ n < 0xE000 then .low (n - 0xDC00)
  else .char (Char.ofNat n)

/-- The text of the units: a high half must be followed at once by a low one, and a low half by
itself has no character. -/
def Unit16.join? : List Unit16 → Option (List Char)
  | [] => some []
  | .char c :: rest => (join? rest).map (c :: ·)
  | .high h :: .low l :: rest => (join? rest).map (Char.ofNat (0x10000 + 1024 * h + l) :: ·)
  | _ => none

/-- The units of a string up to its closing quote, latest first, and what follows the quote. A raw
control character and an unknown escape are refused. -/
def scanString (units : List Unit16) : List Char → Option (List Unit16 × List Char)
  | [] => none
  | '"' :: rest => some (units, rest)
  | '\\' :: 'u' :: a :: b :: c :: d :: rest =>
    match codeUnit? a b c d with
    | some n => scanString (Unit16.ofCode n :: units) rest
    | none => none
  | '\\' :: c :: rest =>
    match shortEscape? c with
    | some e => scanString (.char e :: units) rest
    | none => none
  | c :: rest => if c.toNat < 0x20 ∨ c = '\\' then none else scanString (.char c :: units) rest

/-- What follows a string is a part of what was read. -/
theorem length_of_scanString {units : List Unit16} {cs : List Char} {found rest}
    (h : scanString units cs = some (found, rest)) : rest.length < cs.length := by
  fun_induction scanString units cs with
  | case1 => simp at h
  | case2 => simp_all
  | case3 units a b c d more n _ ih => have := ih h; simp only [List.length_cons]; omega
  | case4 => simp at h
  | case5 units c more _ e _ ih => have := ih h; simp only [List.length_cons]; omega
  | case6 => simp at h
  | case7 => simp at h
  | case8 units c more _ _ _ _ ih => have := ih h; simp only [List.length_cons]; omega

/-! ## Texts -/

/-- The characters that stand between tokens and mean nothing. -/
def isBlank (c : Char) : Bool := c = ' ' || c = '\n' || c = '\t' || c = '\r'

/-- The characters that a number is written with. -/
def isNumberChar (c : Char) : Bool :=
  c.isDigit || c = '-' || c = '+' || c = '.' || c = 'e' || c = 'E'

/-- The token of one character. -/
def Token.mark? : Char → Option Token
  | '[' => some .beginArray
  | ']' => some .endArray
  | '\x7b' => some .beginObject
  | '\x7d' => some .endObject
  | ':' => some .colon
  | ',' => some .comma
  | _ => none

/-- The token of a word. -/
def Token.word? (cs : List Char) : Option Token :=
  if cs = ['n', 'u', 'l', 'l'] then some (.scalar .null)
  else if cs = ['t', 'r', 'u', 'e'] then some (.scalar (.bool true))
  else if cs = ['f', 'a', 'l', 's', 'e'] then some (.scalar (.bool false))
  else none

/-- The tokens of a text put behind those already found, latest first. -/
def Token.scan (found : List Token) (cs : List Char) : Option (List Token) :=
  match cs with
  | [] => some found.reverse
  | c :: rest =>
    if isBlank c then scan found rest
    else if c = '"' then
      match _h : scanString [] rest with
      | some (units, rest) =>
        scan (.string ((Unit16.join? units.reverse).map String.ofList) :: found) rest
      | none => none
    else if c = '-' ∨ c.isDigit then
      match NumberText.ofChars? (c :: rest.takeWhile isNumberChar) with
      | some t => scan (.scalar t.value :: found) (rest.dropWhile isNumberChar)
      | none => none
    else if c.isAlpha then
      match Token.word? (c :: rest.takeWhile Char.isAlpha) with
      | some t => scan (t :: found) (rest.dropWhile Char.isAlpha)
      | none => none
    else
      match Token.mark? c with
      | some t => scan (t :: found) rest
      | none => none
  termination_by cs.length
  decreasing_by
    · simp
    · have := length_of_scanString _h; simp only [List.length_cons]; omega
    · have := (List.dropWhile_sublist isNumberChar (l := rest)).length_le
      simp only [List.length_cons]; omega
    · have := (List.dropWhile_sublist Char.isAlpha (l := rest)).length_le
      simp only [List.length_cons]; omega
    · simp

/-- The tokens of a text. -/
def Token.ofText? (text : String) : Option (List Token) := Token.scan [] text.toList

end SpriteStage.Json
