import SpriteStage.Number.Binary

/-!
# The shortest decimal of a double

A double stands for all the reals that round to it. `Decimal.shortest` picks from them a decimal
with the fewest digits, and the nearest of those. `ReadsBack` is the interval itself, by exact
comparison of integers, and the search tries one digit, then two, and so on up to seventeen.
-/

namespace SpriteStage

/-- The decimal `digits * 10 ^ exponent`. -/
structure Decimal where
  digits : Nat
  exponent : Int
  deriving DecidableEq

/-- Which of two equally near decimals is taken. -/
inductive Tie where
  | toEven
  | up
  deriving DecidableEq

namespace Decimal

/-- Compares `digits * 10 ^ exponent` with `m * 2 ^ e`. -/
def compareBinary (d : Decimal) (m : Nat) (e : Int) : Ordering :=
  compare (d.digits * Nat.pow 10 d.exponent.toNat <<< (-e).toNat)
    (m * Nat.pow 10 (-d.exponent).toNat <<< e.toNat)

/-- The decimal lies among the reals that round to the double `m * 2 ^ e`. The interval reaches
halfway to both neighbours, its ends belong to it when `m` is even, and below a power of two the
neighbour is half as far. -/
def ReadsBack (m : Nat) (e : Int) (d : Decimal) : Prop :=
  let low := if m = Binary.leadingOne ∧ -1074 < e then 4 * m - 1 else 4 * m - 2
  let below := d.compareBinary low (e - 2)
  let above := d.compareBinary (4 * m + 2) (e - 2)
  (below = .gt ∨ m % 2 = 0 ∧ below = .eq) ∧ (above = .lt ∨ m % 2 = 0 ∧ above = .eq)

instance (m : Nat) (e : Int) (d : Decimal) : Decidable (ReadsBack m e d) := by
  unfold ReadsBack; infer_instance

/-- The least `k` with `m * 2 ^ e < 10 ^ k`, for a positive `m`: the binary logarithm gives it but
for a step or two. -/
def scale (m : Nat) (e : Int) : Int :=
  let guess := (e + m.log2) * 30103 / 100000
  match [guess, guess + 1, guess + 2].find? fun k => compareBinary ⟨1, k⟩ m e == .gt with
  | some k => k
  | none => guess + 3

/-- The greatest multiple of `10 ^ place` that is not above `m * 2 ^ e`, counted in that unit. -/
def floorAt (m : Nat) (e place : Int) : Nat :=
  (m * Nat.pow 10 (-place).toNat <<< e.toNat) / (Nat.pow 10 place.toNat <<< (-e).toNat)

/-- The decimal of the grid `10 ^ place` that reads back as `m * 2 ^ e`, if there is one: of the
two neighbours of the value on the grid the nearer, and by the tie rule when both are as near. -/
def onGrid (tie : Tie) (m : Nat) (e place : Int) : Option Decimal :=
  let lower : Decimal := ⟨floorAt m e place, place⟩
  let upper : Decimal := ⟨lower.digits + 1, place⟩
  if ReadsBack m e lower then
    if ReadsBack m e upper then
      match compareBinary ⟨lower.digits + upper.digits, place⟩ (2 * m) e with
      | .gt => some lower
      | .lt => some upper
      | .eq =>
        match tie with
        | .up => some upper
        | .toEven => some (if lower.digits % 2 = 0 then lower else upper)
    else some lower
  else if ReadsBack m e upper then some upper
  else none

/-- The same decimal without zeros at the end of its digits. -/
def trimmed (d : Decimal) : Decimal :=
  if d.digits = 0 then d
  else if d.digits % 10 = 0 then trimmed ⟨d.digits / 10, d.exponent + 1⟩
  else d
  termination_by d.digits
  decreasing_by omega

/-- The shortest decimal of `m * 2 ^ e`, for a positive `m`. The search starts at one digit, and
the exact value stands by for the case that seventeen should not do. -/
def shortest (tie : Tie) (m : Nat) (e : Int) : Decimal :=
  let top := scale m e
  match (List.range 17).findSome? fun (n : Nat) => onGrid tie m e (top - (n + 1)) with
  | some d => d.trimmed
  | none => if 0 ≤ e then ⟨m <<< e.toNat, 0⟩ else ⟨m * Nat.pow 5 (-e).toNat, e⟩

end Decimal

end SpriteStage
