import SpriteStage.Number.Binary

/-!
# Spans of time

A `Duration` counts nanoseconds and ends at `Duration.longest`, one nanosecond short of `2 ^ 64`
seconds. Sums stop there. `Duration.ofSeconds?` reads a double of seconds to the nearest nanosecond,
with the rounding done exactly on the double's integers.
-/

namespace SpriteStage

/-- The nanoseconds of a second. -/
def Duration.second : Nat := 1000000000

/-- The nanoseconds of a millisecond. -/
def Duration.millisecond : Nat := 1000000

/-- How many nanoseconds make a duration too long. -/
def Duration.limit : Nat := UInt64.size * Duration.second

/-- A span of time, also the time since a clock was started. -/
structure Duration where
  nanos : Nat
  inRange : nanos < Duration.limit
  deriving DecidableEq

namespace Duration

/-- No time at all. -/
def zero : Duration := ⟨0, by decide⟩

/-- The greatest duration. -/
def longest : Duration := ⟨limit - 1, by decide⟩

/-- The duration of so many nanoseconds, or the greatest one. -/
def ofNanos (n : Nat) : Duration :=
  if h : n < limit then ⟨n, h⟩ else longest

/-- The duration of so many milliseconds. -/
def ofMillis (n : UInt64) : Duration :=
  ⟨n.toNat * millisecond, by
    have := n.toNat_lt
    simp only [limit, second, millisecond, UInt64.size]
    omega⟩

instance : LE Duration := ⟨fun a b => a.nanos ≤ b.nanos⟩
instance : LT Duration := ⟨fun a b => a.nanos < b.nanos⟩
instance (a b : Duration) : Decidable (a ≤ b) := inferInstanceAs (Decidable (a.nanos ≤ b.nanos))
instance (a b : Duration) : Decidable (a < b) := inferInstanceAs (Decidable (a.nanos < b.nanos))

theorem le_iff {a b : Duration} : a ≤ b ↔ a.nanos ≤ b.nanos := Iff.rfl

theorem lt_iff {a b : Duration} : a < b ↔ a.nanos < b.nanos := Iff.rfl

/-- The sum, which stops at the greatest duration. -/
def add (a b : Duration) : Duration := ofNanos (a.nanos + b.nanos)

instance : Add Duration := ⟨add⟩

/-- The time from `b` to `a`, none when `b` is later. -/
def sub (a b : Duration) : Duration := ⟨a.nanos - b.nanos, by have := a.inRange; omega⟩

instance : Sub Duration := ⟨sub⟩

/-- The nanoseconds of a sum add up as long as there is room. -/
theorem nanos_add (a b : Duration) : (a + b).nanos = min (a.nanos + b.nanos) (limit - 1) := by
  show (ofNanos (a.nanos + b.nanos)).nanos = _
  unfold ofNanos
  split
  · simp only; omega
  · simp only [longest]; omega

theorem le_add_right (a b : Duration) : a ≤ a + b := by
  have := a.inRange
  rw [le_iff, nanos_add]; omega

/-- The milliseconds of a duration without the rest, modulo `2 ^ 64`. -/
def asMillis (d : Duration) : UInt64 := (d.nanos / millisecond).toUInt64

/-- The quotient rounded to the nearest integer, a half to the even one. -/
def divideToEven (num den : Nat) : Nat :=
  let q := num / den
  match compare (2 * (num % den)) den with
  | .lt => q
  | .gt => q + 1
  | .eq => q + q % 2

/-- So many seconds, to the nearest nanosecond with a half to the even one. A time before zero or
past the range has no duration. -/
def ofSeconds? (x : Float) : Option Duration :=
  match Binary.ofFloat x with
  | .finite negative m e =>
    if negative && m != 0 then none
    else
      let nanos := divideToEven (m * second <<< e.toNat) (1 <<< (-e).toNat)
      if h : nanos < limit then some ⟨nanos, h⟩ else none
  | _ => none

end Duration

end SpriteStage
