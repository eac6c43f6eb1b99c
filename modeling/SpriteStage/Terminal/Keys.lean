import SpriteStage.Keyboard

/-!
# Keys as a terminal sends them

`Terminal.keys` cuts the characters that a terminal sends into key presses: control characters,
escape sequences of cursor and function keys, an escape before a key that is pressed with Alt, and
characters that stand for themselves.
-/

namespace SpriteStage.Terminal

/-- The key of a sequence `ESC [ c` or `ESC O c`. -/
def letterKey? : Char → Option Key
  | 'A' => some .up
  | 'B' => some .down
  | 'C' => some .right
  | 'D' => some .left
  | 'F' => some .endKey
  | 'H' => some .home
  | 'P' => some (.function 1)
  | 'Q' => some (.function 2)
  | 'R' => some (.function 3)
  | 'S' => some (.function 4)
  | 'Z' => some .backTab
  | _ => none

/-- The key of a sequence `ESC [ n ~`. -/
def numberKey? (n : Nat) : Option Key :=
  if n = 1 ∨ n = 7 then some .home
  else if n = 2 then some .insert
  else if n = 3 then some .delete
  else if n = 4 ∨ n = 8 then some .endKey
  else if n = 5 then some .pageUp
  else if n = 6 then some .pageDown
  else if 11 ≤ n ∧ n ≤ 15 then some (.function (n - 10).toUInt8)
  else if 17 ≤ n ∧ n ≤ 21 then some (.function (n - 11).toUInt8)
  else if n = 23 ∨ n = 24 then some (.function (n - 12).toUInt8)
  else none

/-- The key of a single character. The control characters from `1` to `26` are letters with
Control held. -/
def plainKey (c : Char) : KeyPress :=
  if c = '\r' ∨ c = '\n' then { key := .enter }
  else if c = '\t' then { key := .tab }
  else if c = '\x7f' then { key := .backspace }
  else if c.toNat = 0 then { key := .char ' ', control := true }
  else if c.toNat ≤ 26 then { key := .char (Char.ofNat (c.toNat + 96)), control := true }
  else { key := .char c }

/-- The first key of some characters, and how many of them it takes. -/
def firstKey (c : Char) (rest : List Char) : Option KeyPress × Nat :=
  if c ≠ '\x1b' then (some (plainKey c), 1)
  else
    match rest with
    | [] => (some { key := .escape }, 1)
    | 'O' :: letter :: _ => ((letterKey? letter).map fun k => { key := k }, 3)
    | '[' :: more =>
      let digits := more.takeWhile Char.isDigit
      match more.drop digits.length with
      | '~' :: _ =>
        let key := match readNat 256 (String.ofList digits) with
          | .ok n => numberKey? n
          | .error _ => none
        (key.map fun k => { key := k }, 3 + digits.length)
      | letter :: _ => ((letterKey? letter).map fun k => { key := k }, 3 + digits.length)
      | [] => (none, 2 + digits.length)
    | next :: _ => (some { plainKey next with alt := true }, 2)

/-- The keys of the characters that a terminal sends. -/
def keys (cs : List Char) : List KeyPress :=
  match cs with
  | [] => []
  | c :: rest =>
    let (key, taken) := firstKey c rest
    key.toList ++ keys (rest.drop (taken - 1))
  termination_by cs.length
  decreasing_by simp only [List.length_drop, List.length_cons]; omega

end SpriteStage.Terminal
