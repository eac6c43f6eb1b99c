import SpriteStage.Number.Shortest

/-!
# Numbers in texts

A `NumberStyle` holds the decisions of one written form: which exponents are written positionally,
whether a whole number keeps a fraction, the texts of the values that are no numbers, and which of
two equally short digits is taken. `NumberStyle.write` lays out the shortest decimal of a double by
such a style.

`readNat` reads a text of decimal digits, with or without a plus sign before them and with any
number of leading zeros, as a number below a limit.
-/

namespace SpriteStage

/-! ## Writing doubles -/

/-- The decisions of one written form of doubles. -/
structure NumberStyle where
  /-- Which of two equally near shortest decimals is written. -/
  tie : Tie
  /-- The decimal exponents `[from, to)` that are written positionally, all of them when absent. -/
  positional : Option (Int × Int)
  /-- What follows a whole number. -/
  whole : String
  nan : String
  infinity : String

namespace NumberStyle

/-- Digits with the point set among them, or zeros added where the point lies outside. -/
def writePositional (style : NumberStyle) (d : Decimal) : String :=
  let text := (Nat.toDigits 10 d.digits)
  if 0 ≤ d.exponent then
    String.ofList (text ++ List.replicate d.exponent.toNat '0') ++ style.whole
  else
    let places := (-d.exponent).toNat
    let padded := List.replicate (places + 1 - text.length) '0' ++ text
    String.ofList (padded.take (padded.length - places) ++ '.' ::
      padded.drop (padded.length - places))

/-- One digit, the others after a point, and the signed exponent. -/
def writeScientific (d : Decimal) : String :=
  let text := Nat.toDigits 10 d.digits
  let exponent := d.exponent + (text.length - 1 : Nat)
  let fraction := match text.drop 1 with
    | [] => []
    | rest => '.' :: rest
  let sign := if exponent < 0 then '-' else '+'
  String.ofList (text.take 1 ++ fraction ++ 'e' :: sign :: Nat.toDigits 10 exponent.natAbs)

/-- The written form of a double. -/
def write (style : NumberStyle) (x : Float) : String :=
  match Binary.ofFloat x with
  | .nan => style.nan
  | .infinite negative => (if negative then "-" else "") ++ style.infinity
  | .finite negative m e =>
    let body :=
      if m = 0 then style.writePositional ⟨0, 0⟩
      else
        let d := Decimal.shortest style.tie m e
        let leading := d.exponent + ((Nat.toDigits 10 d.digits).length - 1 : Nat)
        match style.positional with
        | some (low, high) =>
          if low ≤ leading ∧ leading < high then style.writePositional d else writeScientific d
        | none => style.writePositional d
    (if negative then "-" else "") ++ body

end NumberStyle

/-! ## Reading natural numbers -/

/-- Why a text is no natural number. -/
inductive NatError where
  | empty
  | invalidDigit
  | tooLarge
  deriving DecidableEq

/-- The text that tells why. -/
def NatError.message : NatError → String
  | .empty => "cannot parse integer from empty string"
  | .invalidDigit => "invalid digit found in string"
  | .tooLarge => "number too large to fit in target type"

/-- Reads digits behind the number `n`. The first character that is no digit or takes the number
to the limit decides. -/
def readDigits (limit : Nat) : (n : Nat) → List Char → Except NatError Nat
  | n, [] => .ok n
  | n, c :: rest =>
    if c.isDigit then
      let more := 10 * n + (c.toNat - '0'.toNat)
      if more < limit then readDigits limit more rest else .error .tooLarge
    else .error .invalidDigit

/-- The number below `limit` that a text writes. -/
def readNat (limit : Nat) (text : String) : Except NatError Nat :=
  match text.toList with
  | [] => .error .empty
  | ['+'] => .error .invalidDigit
  | '+' :: rest => readDigits limit 0 rest
  | cs => readDigits limit 0 cs

end SpriteStage
