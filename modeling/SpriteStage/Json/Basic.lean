/-!
# JSON values

`Json` is the tree of a JSON text. Objects keep their members in the order and number in which they
were written, so that a reader of records can refuse a member given twice.

A text may be well formed and still hold a part that no value stands for: a number past the doubles,
an escape for half of a surrogate pair, or nesting deeper than `Json.deepest`. Such a part is the
leaf `unreadable`. Who skips it does not mind, who asks for its value gets none.

`Json.record?` is the one way in which records are taken apart: by name from an object, by position
from an array.
-/

namespace SpriteStage

/-- A JSON value. An `int` lies between `-2 ^ 63` and `2 ^ 64`. -/
inductive Json where
  | null
  | bool (value : Bool)
  | int (value : Int)
  | real (value : Float)
  | text (value : String)
  | array (items : List Json)
  | object (members : List (String × Json))
  | unreadable
  deriving Inhabited

namespace Json

/-- How many containers may lie one in another. -/
def deepest : Nat := 127

/-! ## Values of a kind -/

/-- The natural number below `limit` that the value is. A number with a fraction or an exponent is
none, whatever its value. -/
def nat? (limit : Nat) : Json → Option Nat
  | .int n => if 0 ≤ n ∧ n < limit then some n.toNat else none
  | _ => none

/-- The double nearest to the number. -/
def float? : Json → Option Float
  | .int n => some (if n < 0 then -n.natAbs.toUInt64.toFloat else n.toNat.toUInt64.toFloat)
  | .real x => some x
  | _ => none

/-- The text of a string. -/
def text? : Json → Option String
  | .text s => some s
  | _ => none

/-- The items of an array. -/
def items? : Json → Option (List Json)
  | .array items => some items
  | _ => none

/-- What a decoder makes of every item of an array. -/
def list? (decode : Json → Option α) (j : Json) : Option (List α) := do
  (← j.items?).mapM decode

/-! ## Records -/

/-- The values that an object's members give to a name, in their order. -/
def valuesOf (name : String) (members : List (String × Json)) : List Json :=
  (members.filter (·.1 == name)).map (·.2)

/-- The fields of a record: for each of the names the value given to it, if any. An object gives
them by name, at most once each, and its other members are not looked at. An array gives them in
the order of the names and may end early. -/
def record? (names : List String) : Json → Option (String → Option Json)
  | .object members =>
    if names.all fun name => (valuesOf name members).length ≤ 1 then
      some fun name => if name ∈ names then (valuesOf name members).head? else none
    else none
  | .array items =>
    if items.length ≤ names.length then some fun name => (names.zip items).lookup name else none
  | _ => none

/-- The value of a field that has to be there. -/
def required (decode : Json → Option α) : Option Json → Option α
  | some j => decode j
  | none => none

/-- The value of a field that has a default. -/
def withDefault (default : α) (decode : Json → Option α) : Option Json → Option α
  | some j => decode j
  | none => some default

/-- The value of a field that may be absent, as it also is when it is `null`. -/
def optional (decode : Json → Option α) : Option Json → Option (Option α)
  | some .null => some none
  | some j => (decode j).map some
  | none => some none

/-! ## Readability -/

mutual

/-- Every part of the value has a value. -/
def isReadable : Json → Bool
  | .unreadable => false
  | .array items => areReadable items
  | .object members => membersReadable members
  | _ => true

/-- Every item is readable. -/
def areReadable : List Json → Bool
  | [] => true
  | j :: rest => j.isReadable && areReadable rest

/-- The value of every member is readable. -/
def membersReadable : List (String × Json) → Bool
  | [] => true
  | (_, j) :: rest => j.isReadable && membersReadable rest

end

/-! ## Building values -/

/-- The value of a double. One that is not finite has no number in JSON and becomes `null`. -/
def ofFloat (x : Float) : Json :=
  if x.isFinite then .real x else .null

/-- A member for a field that is set, none for one that is absent. -/
def member (name : String) (encode : α → Json) : Option α → List (String × Json)
  | some value => [(name, encode value)]
  | none => []

end Json

end SpriteStage
