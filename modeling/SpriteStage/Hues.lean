/-!
# Random hues

`Hues` is an endless supply of hues between 0 and 360 degrees that is fixed by a seed. The hues are
cut from the words of a ChaCha stream of twelve rounds, two words a hue, and the key of the stream
is made from the seed by a permuted congruential generator. A supply is its seed and the number of
hues taken, so the hue at any place is a function of the two.
-/

namespace SpriteStage

namespace ChaCha

/-- Four words of a state. -/
structure Row where
  a : UInt32
  b : UInt32
  c : UInt32
  d : UInt32
  deriving DecidableEq

/-- Joins two rows word by word. -/
def Row.zip (f : UInt32 → UInt32 → UInt32) (r s : Row) : Row :=
  ⟨f r.a s.a, f r.b s.b, f r.c s.c, f r.d s.d⟩

/-- The row moved to the left by one word. -/
def Row.shift (r : Row) : Row := ⟨r.b, r.c, r.d, r.a⟩

/-- The words of a row. -/
def Row.words (r : Row) : List UInt32 := [r.a, r.b, r.c, r.d]

/-- Sixteen words: the constants, two rows of key, and the counter. -/
structure Block where
  top : Row
  keyLow : Row
  keyHigh : Row
  bottom : Row
  deriving DecidableEq

/-- A word rotated to the left. -/
def rotateLeft (n : UInt32) (w : UInt32) : UInt32 := (w <<< n) ||| (w >>> (32 - n))

/-- A quarter round on each of the four columns. -/
def Block.columns (x : Block) : Block :=
  let half (x : Block) (r s : UInt32) : Block :=
    let top := x.top.zip (· + ·) x.keyLow
    let bottom := x.bottom.zip (fun v w => rotateLeft r (v ^^^ w)) top
    let keyHigh := x.keyHigh.zip (· + ·) bottom
    ⟨top, x.keyLow.zip (fun v w => rotateLeft s (v ^^^ w)) keyHigh, keyHigh, bottom⟩
  half (half x 16 12) 8 7

/-- A round on the columns and one on the diagonals. -/
def Block.doubleRound (x : Block) : Block :=
  let x := x.columns
  let y := Block.columns ⟨x.top, x.keyLow.shift, x.keyHigh.shift.shift, x.bottom.shift.shift.shift⟩
  ⟨y.top, y.keyLow.shift.shift.shift, y.keyHigh.shift.shift, y.bottom.shift⟩

/-- The block of twelve rounds, added to where it started. -/
def Block.mixed (x : Block) : Block :=
  let y := Nat.repeat Block.doubleRound 6 x
  ⟨x.top.zip (· + ·) y.top, x.keyLow.zip (· + ·) y.keyLow, x.keyHigh.zip (· + ·) y.keyHigh,
    x.bottom.zip (· + ·) y.bottom⟩

/-- The words of a block. -/
def Block.words (x : Block) : List UInt32 :=
  x.top.words ++ x.keyLow.words ++ x.keyHigh.words ++ x.bottom.words

/-- A key of eight words. -/
structure Key where
  low : Row
  high : Row
  deriving DecidableEq

/-- The block of a key at a place of the stream. -/
def Key.block (k : Key) (place : Nat) : Block :=
  Block.mixed ⟨⟨0x61707865, 0x3320646e, 0x79622d32, 0x6b206574⟩, k.low, k.high,
    ⟨place.toUInt32, (place / UInt32.size).toUInt32, 0, 0⟩⟩

/-- The word of a key's stream at a place. -/
def Key.word (k : Key) (place : Nat) : UInt32 := (k.block (place / 16)).words.getD (place % 16) 0

/-- A step of the generator that spreads a seed. -/
def seedStep (state : UInt64) : UInt64 := state * 6364136223846793005 + 11634580027462260723

/-- The word that the generator gives in a state. -/
def seedWord (state : UInt64) : UInt32 :=
  let mixed := (((state >>> 18) ^^^ state) >>> 27).toUInt32
  let turn := (state >>> 59).toUInt32
  (mixed >>> turn) ||| (mixed <<< ((32 - turn) % 32))

/-- The key of a seed: eight words of the generator, one after each step. -/
def Key.ofSeed (seed : UInt64) : Key :=
  let word (n : Nat) : UInt32 := seedWord (Nat.repeat seedStep (n + 1) seed)
  ⟨⟨word 0, word 1, word 2, word 3⟩, ⟨word 4, word 5, word 6, word 7⟩⟩

end ChaCha

/-- A supply of hues. -/
structure Hues where
  seed : UInt64
  /-- How many hues have been taken. -/
  drawn : Nat
  deriving DecidableEq

namespace Hues

/-- The supply of a seed with nothing taken. -/
def ofSeed (seed : UInt64) : Hues := ⟨seed, 0⟩

/-- The hue at a place of a seed's supply: the upper 52 of two words' 64 bits, as a part of the full
circle. -/
def hueAt (seed : UInt64) (place : Nat) : Float :=
  let key := ChaCha.Key.ofSeed seed
  let bits := (key.word (2 * place + 1)).toUInt64 <<< 32 ||| (key.word (2 * place)).toUInt64
  (bits >>> 12).toFloat / (0x10000000000000 : UInt64).toFloat * 360.0

/-- The next hue, and the supply without it. -/
def draw (h : Hues) : Float × Hues := (hueAt h.seed h.drawn, { h with drawn := h.drawn + 1 })

end Hues

end SpriteStage
