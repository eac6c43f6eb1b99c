/-!
# Doubles as integers times powers of two

`Binary` says what a double stands for: a signed `mantissa * 2 ^ exponent`, an infinity, or no
number at all. On that reading the operations of this module are exact: rounding to an integer by a
stated rule, and the remainder of a division.

Comparisons that have to give way to a NaN are here too: `least` and `greatest` answer with the
other argument.
-/

namespace SpriteStage

/-! ## The reading of a double -/

/-- What a double stands for. A finite one is `mantissa * 2 ^ exponent`, negated when `negative`. -/
inductive Binary where
  | nan
  | infinite (negative : Bool)
  | finite (negative : Bool) (mantissa : Nat) (exponent : Int)
  deriving DecidableEq

namespace Binary

/-- The place of the leading one among the bits of a fraction. -/
def leadingOne : Nat := 0x10000000000000

/-- The place of the sign among the bits of a double. -/
def signBit : Nat := 0x8000000000000000

/-- The reading of a double: a biased exponent of zero has no leading one and the largest one is
kept for infinities and NaN. -/
def ofFloat (x : Float) : Binary :=
  let bits := x.toBits.toNat
  let negative := signBit ≤ bits
  let biased : Nat := bits / leadingOne % 2048
  let fraction : Nat := bits % leadingOne
  if biased = 2047 then
    if fraction = 0 then .infinite negative else .nan
  else if biased = 0 then .finite negative fraction (-1074)
  else .finite negative (leadingOne + fraction) ((biased : Int) - 1075)

/-- The double `mantissa * 2 ^ exponent`, negated when `negative`. It is exact whenever the value
has a double at all: the mantissa is moved to where its leading one belongs. -/
def toDouble (negative : Bool) (mantissa : Nat) (exponent : Int) : Float :=
  let place := max (exponent + mantissa.log2 - 52) (-1074)
  let moved := mantissa <<< (exponent - place).toNat >>> (place - exponent).toNat
  let magnitude :=
    if moved < leadingOne then moved
    else (place + 1075).toNat * leadingOne + (moved - leadingOne)
  Float.ofBits ((if negative then signBit else 0) + magnitude).toUInt64

end Binary

/-- The value that is no number. -/
def notANumber : Float := 0.0 / 0.0

/-! ## Integers near a double -/

/-- How a value between two integers is brought to one of them. -/
inductive Rounding where
  /-- To the integer below. -/
  | down
  /-- To the integer nearer to zero. -/
  | towardZero
  /-- To the nearer integer, a half away from zero. -/
  | halfAway
  deriving DecidableEq

namespace Rounding

/-- The integer for `num / den`, negated first when `negative`. -/
def quotient (rule : Rounding) (negative : Bool) (num den : Nat) : Int :=
  let signed (n : Nat) : Int := if negative then -(n : Int) else n
  match rule with
  | .down => signed num / (den : Int)
  | .towardZero => signed (num / den)
  | .halfAway => signed ((2 * num + den) / (2 * den))

/-- The integer for `x` by the rule, brought into `[lo, hi]`. What is no number counts as zero. -/
def toInt (rule : Rounding) (lo hi : Int) (x : Float) : Int :=
  match Binary.ofFloat x with
  | .nan => 0
  | .infinite negative => if negative then lo else hi
  | .finite negative m e =>
    max lo (min hi (rule.quotient negative (m <<< e.toNat) (1 <<< (-e).toNat)))

end Rounding

/-! ## Remainders -/

/-- The remainder of `x / y` with the quotient cut toward zero. It is exact and has the sign
of `x`. -/
def remainder (x y : Float) : Float :=
  match Binary.ofFloat x, Binary.ofFloat y with
  | .finite negative m e, .finite _ n f =>
    if n = 0 then notANumber
    else
      let place := min e f
      Binary.toDouble negative (m <<< (e - place).toNat % (n <<< (f - place).toNat)) place
  | .finite .., .infinite _ => x
  | _, _ => notANumber

/-- The remainder brought to the side of zero on which it is not negative. A tiny negative one may
round up to `y` itself. -/
def wrap (x y : Float) : Float :=
  let r := remainder x y
  if r < 0.0 then r + y else r

/-! ## Order -/

/-- The lesser of two values. A NaN gives way to the other one, and of two equal ones, which may be
zeros of either sign, the second is taken. -/
def least (x y : Float) : Float :=
  if y.isNaN then x else if x < y then x else y

/-- The greater of two values. A NaN gives way to the other one, and of two equal ones, which may be
zeros of either sign, the second is taken. -/
def greatest (x y : Float) : Float :=
  if y.isNaN then x else if y < x then x else y

/-- The distance of a value from zero. -/
def magnitude (x : Float) : Float :=
  if x < 0.0 then -x else x

end SpriteStage
