import SpriteStage.Console

/-!
# What a terminal shows

A `Sheet` is a screen without edges, and `Sheet.run` is what commands do to it. Commands that print
are described by the glyphs that they lay down in a row (`Prints`), and commands that begin with a
move of the cursor by the glyphs that they leave at each place (`Draws`).

A `Device` is a terminal of some size. It does what a sheet does as long as no command leads beyond
its edges (`Sheet.HoldsAll`), and otherwise what it likes.
-/

namespace SpriteStage.Terminal

/-! ## Pens and glyphs -/

/-- How characters are printed: in a style, and reversed or not. -/
structure Pen where
  style : Style := {}
  reverse : Bool := false
  deriving DecidableEq

/-- A character on a screen. -/
structure Glyph where
  char : Char
  pen : Pen := {}
  deriving DecidableEq

/-- A place where nothing is printed. -/
def Glyph.blank : Glyph := ⟨' ', {}⟩

namespace Pen

/-- The pen after an attribute. -/
def switch (p : Pen) : Attribute → Pen
  | .reset => {}
  | .bold => { p with style := { p.style with bold := true } }
  | .dim => { p with style := { p.style with dim := true } }
  | .reverse => { p with reverse := true }

/-- The pen with a style put on. -/
def putOn (p : Pen) (s : Style) : Pen :=
  { p with style := {
      foreground := s.foreground.or p.style.foreground
      background := s.background.or p.style.background
      bold := s.bold || p.style.bold
      dim := s.dim || p.style.dim } }

/-- The pen with a style taken off. There is no sequence for bold or dim alone, so all goes with
them. -/
def takeOff (p : Pen) (s : Style) : Pen :=
  if s.bold || s.dim then {}
  else
    { p with style := { p.style with
        foreground := if s.foreground.isSome then none else p.style.foreground
        background := if s.background.isSome then none else p.style.background } }

@[simp] theorem putOn_plain (s : Style) : putOn {} s = ⟨s, false⟩ := by
  obtain ⟨foreground, background, bold, dim⟩ := s
  simp [putOn]

/-- A style that is taken off again leaves a plain pen plain. -/
@[simp] theorem takeOff_same (s : Style) : takeOff ⟨s, false⟩ s = {} := by
  obtain ⟨foreground, background, bold, dim⟩ := s
  cases foreground <;> cases background <;> cases bold <;> cases dim <;> rfl

end Pen

/-! ## Sheets -/

/-- A screen without edges, with the place of its cursor and its pen. -/
structure Sheet where
  /-- The glyph of a column and a row. -/
  glyphs : Nat → Nat → Glyph
  column : Nat
  row : Nat
  pen : Pen

namespace Sheet

/-- A cleared sheet, as it is before anything is drawn. -/
def blank : Sheet := ⟨fun _ _ => .blank, 0, 0, {}⟩

/-- The sheet with glyphs laid down side by side, from the cursor on. -/
def lay (s : Sheet) (gs : List Glyph) : Sheet :=
  { s with
    column := s.column + gs.length
    glyphs := fun x y =>
      if y = s.row ∧ s.column ≤ x then gs[x - s.column]?.getD (s.glyphs x y) else s.glyphs x y }

/-- The sheet with a text printed, each of its characters in one column. -/
def print (s : Sheet) (text : String) : Sheet := s.lay (text.toList.map fun c => ⟨c, s.pen⟩)

/-- The sheet after a command. -/
def apply (s : Sheet) : Command → Sheet
  | .moveTo column row => { s with column := column, row := row }
  | .clearAll => { s with glyphs := fun _ _ => .blank }
  | .clearLine => { s with glyphs := fun x y => if y = s.row then .blank else s.glyphs x y }
  | .attribute a => { s with pen := s.pen.switch a }
  | .print text => s.print text
  | .styled style text =>
    let printed := print { s with pen := s.pen.putOn style } text
    { printed with pen := printed.pen.takeOff style }
  | .fullscreen _ => s

/-- The sheet after one command and the other. -/
def run (s : Sheet) (commands : List Command) : Sheet := commands.foldl apply s

@[simp] theorem run_nil (s : Sheet) : s.run [] = s := rfl

@[simp] theorem run_cons (s : Sheet) (c : Command) (rest : List Command) :
    s.run (c :: rest) = (s.apply c).run rest := rfl

/-- Commands are carried out in their order. -/
theorem run_append (s : Sheet) (first second : List Command) :
    s.run (first ++ second) = (s.run first).run second := List.foldl_append

/-! ### Laying glyphs down -/

@[simp] theorem lay_nil (s : Sheet) : s.lay [] = s := by
  unfold lay
  simp

/-- Glyphs laid down after others continue their row. -/
theorem lay_append (s : Sheet) (first second : List Glyph) :
    s.lay (first ++ second) = (s.lay first).lay second := by
  unfold lay
  simp only [Sheet.mk.injEq, List.length_append, Nat.add_assoc, and_true]
  funext x y
  by_cases hrow : y = s.row
  · by_cases hfirst : x < s.column + first.length
    · -- the place is among the first glyphs, or before them
      have hnot : ¬ s.column + first.length ≤ x := by omega
      by_cases hleft : s.column ≤ x
      · have hlt : x - s.column < first.length := by omega
        simp only [hrow, hleft, hnot, and_self, and_false, if_true, if_false]
        rw [List.getElem?_append_left hlt]
      · simp only [hrow, hleft, hnot, and_false, if_false]
    · have hleft : s.column ≤ x := by omega
      have hge : s.column + first.length ≤ x := by omega
      have hnone : first[x - s.column]? = none := List.getElem?_eq_none (by omega)
      have hplace : x - s.column - first.length = x - (s.column + first.length) := by omega
      simp only [hrow, hleft, hge, and_self, if_true, hnone, Option.getD_none]
      rw [List.getElem?_append_right (by omega), hplace]
  · simp only [hrow, false_and, if_false]

end Sheet

/-! ## Terminals -/

namespace Sheet

/-- The command does not lead beyond the edges of a screen of some size. After a text that ends at
the right edge the cursor counts as being in the column behind it. -/
def Holds (s : Sheet) (size : ScreenSize) : Command → Prop
  | .moveTo column row => column < size.columns ∧ row < size.rows
  | .print text | .styled _ text => s.column + text.length ≤ size.columns
  | .clearAll | .clearLine | .attribute _ | .fullscreen _ => True

instance (s : Sheet) (size : ScreenSize) (c : Command) : Decidable (s.Holds size c) := by
  cases c <;> unfold Holds <;> infer_instance

/-- None of the commands leads beyond the edges. -/
def HoldsAll (s : Sheet) (size : ScreenSize) : List Command → Prop
  | [] => True
  | c :: rest => s.Holds size c ∧ (s.apply c).HoldsAll size rest

/-- Commands stay within the edges if the first ones do and the others do from where those lead. -/
theorem holdsAll_append {s : Sheet} {size : ScreenSize} {first second : List Command} :
    s.HoldsAll size (first ++ second) ↔
      s.HoldsAll size first ∧ (s.run first).HoldsAll size second := by
  induction first generalizing s with
  | nil => simp [HoldsAll]
  | cons c rest ih => rw [List.cons_append, HoldsAll, HoldsAll, ih, and_assoc, run_cons]

end Sheet

/-- A terminal. It moves its cursor, clears, and puts each character in one column, as long as this
does not lead beyond its edges. -/
structure Device where
  apply : ScreenSize → Sheet → Command → Sheet
  apply_of_holds : ∀ size (s : Sheet) c, s.Holds size c → apply size s c = s.apply c

namespace Device

/-- A terminal that takes no notice of what leads beyond its edges. -/
def heedless : Device where
  apply size s c := if s.Holds size c then s.apply c else s
  apply_of_holds _ _ _ h := if_pos h

/-- The screen of a terminal after one command and the other. -/
def run (d : Device) (size : ScreenSize) (s : Sheet) (commands : List Command) : Sheet :=
  commands.foldl (d.apply size) s

/-- As long as nothing leads beyond its edges, a terminal does what a sheet does. -/
theorem run_of_holdsAll (d : Device) {size : ScreenSize} {s : Sheet} {commands : List Command}
    (h : s.HoldsAll size commands) : d.run size s commands = s.run commands := by
  induction commands generalizing s with
  | nil => rfl
  | cons c rest ih =>
    obtain ⟨hc, hrest⟩ := h
    show d.run size (d.apply size s c) rest = _
    rw [d.apply_of_holds size s c hc, ih hrest, Sheet.run_cons]

end Device

/-! ## Commands that print -/

/-- Where the pen is plain, the commands lay these glyphs down and need no more columns. -/
structure Prints (commands : List Command) (gs : List Glyph) : Prop where
  run : ∀ s : Sheet, s.pen = {} → s.run commands = s.lay gs
  holds : ∀ (size : ScreenSize) (s : Sheet), s.pen = {} →
    s.column + gs.length ≤ size.columns → s.HoldsAll size commands

namespace Prints

variable {commands first second : List Command} {gs hs : List Glyph}

theorem nil : Prints [] [] where
  run _ _ := (Sheet.lay_nil _).symm
  holds _ _ _ _ := trivial

/-- What is printed one after the other stands side by side. -/
theorem append (h : Prints first gs) (h' : Prints second hs) :
    Prints (first ++ second) (gs ++ hs) where
  run s hpen := by
    rw [Sheet.run_append, h.run s hpen, h'.run (s.lay gs) hpen, Sheet.lay_append]
  holds size s hpen hwidth := by
    rw [List.length_append, ← Nat.add_assoc] at hwidth
    rw [Sheet.holdsAll_append, h.run s hpen]
    exact ⟨h.holds size s hpen (by omega), h'.holds size _ hpen hwidth⟩

/-- Items that are printed one after the other stand side by side. -/
theorem flatten {α : Type} {draw : α → List Command} {look : α → List Glyph}
    (h : ∀ a, Prints (draw a) (look a)) (items : List α) :
    Prints (items.flatMap draw) (items.flatMap look) := by
  induction items with
  | nil => exact nil
  | cons a rest ih => exact (h a).append ih

/-- Text is printed in the plain pen. -/
theorem print (text : String) : Prints [.print text] (text.toList.map fun c => ⟨c, {}⟩) where
  run s hpen := by
    show s.lay _ = _
    rw [hpen]
  holds size s hpen hwidth := by
    rw [List.length_map, String.length_toList] at hwidth
    exact ⟨hwidth, trivial⟩

/-- Styled text is printed in its style, and the pen is plain again. -/
theorem styled (style : Style) (text : String) :
    Prints [.styled style text] (text.toList.map fun c => ⟨c, ⟨style, false⟩⟩) where
  run s hpen := by
    obtain ⟨glyphs, column, row, pen⟩ := s
    obtain rfl : pen = {} := hpen
    simp only [Sheet.run_cons, Sheet.run_nil, Sheet.apply, Sheet.print, Sheet.lay, Pen.putOn_plain,
      Pen.takeOff_same]
  holds size s hpen hwidth := by
    rw [List.length_map, String.length_toList] at hwidth
    exact ⟨hwidth, trivial⟩

/-- Text between an attribute and a reset is printed with the attribute. -/
theorem attributed (a : Attribute) (text : String) :
    Prints [.attribute a, .print text, .attribute .reset]
      (text.toList.map fun c => ⟨c, Pen.switch {} a⟩) where
  run s hpen := by
    obtain ⟨glyphs, column, row, pen⟩ := s
    obtain rfl : pen = {} := hpen
    rfl
  holds size s hpen hwidth := by
    rw [List.length_map, String.length_toList] at hwidth
    exact ⟨trivial, hwidth, trivial, trivial⟩

end Prints

/-! ## Commands that draw -/

/-- Where the pen is plain, the commands put glyphs at some places, leave what is at the others, and
leave the pen plain. -/
structure Draws (commands : List Command) (f : Nat → Nat → Option Glyph) : Prop where
  pen : ∀ s : Sheet, s.pen = {} → (s.run commands).pen = {}
  glyphs : ∀ s : Sheet, s.pen = {} → ∀ x y,
    (s.run commands).glyphs x y = (f x y).getD (s.glyphs x y)

/-- Where the pen is plain, the commands stay on a screen of some size and leave the pen plain. -/
def Fits (size : ScreenSize) (commands : List Command) : Prop :=
  ∀ s : Sheet, s.pen = {} → s.HoldsAll size commands ∧ (s.run commands).pen = {}

namespace Draws

variable {commands first second : List Command} {f g : Nat → Nat → Option Glyph}

/-- Only the places and their glyphs count. -/
theorem congr (h : Draws commands f) (hfg : ∀ x y, f x y = g x y) : Draws commands g := by
  have heq : f = g := by
    funext x y
    exact hfg x y
  rwa [← heq]

theorem nil : Draws [] (fun _ _ => none) where
  pen _ hpen := hpen
  glyphs _ _ _ _ := rfl

/-- Of two glyphs that are drawn at one place the later one is seen. -/
theorem append (h : Draws first f) (h' : Draws second g) :
    Draws (first ++ second) (fun x y => (g x y).or (f x y)) where
  pen s hpen := by
    rw [Sheet.run_append]
    exact h'.pen _ (h.pen s hpen)
  glyphs s hpen x y := by
    rw [Sheet.run_append, h'.glyphs _ (h.pen s hpen), h.glyphs s hpen]
    cases g x y <;> rfl

/-- Clearing puts a blank at every place. -/
theorem clearAll : Draws [.clearAll] (fun _ _ => some .blank) where
  pen _ hpen := hpen
  glyphs _ _ _ _ := rfl

/-- Rows of the same kind, one below the other. -/
theorem rows {α : Type} {draw : Nat → α → List Command} {look : α → Nat → Option Glyph}
    (h : ∀ y a, Draws (draw y a) (fun x y' => if y' = y then look a x else none))
    (items : List α) (top : Nat) :
    Draws (items.mapIdx fun y a => draw (y + top) a).flatten
      (fun x y => if top ≤ y then items[y - top]?.bind (look · x) else none) := by
  induction items generalizing top with
  | nil =>
    refine nil.congr fun x y => ?_
    rw [List.getElem?_nil, Option.bind_none, ite_self]
  | cons a rest ih =>
    have hrest := ih (top + 1)
    simp only [List.mapIdx_cons, List.flatten_cons, Nat.zero_add, Nat.add_assoc, Nat.add_comm 1]
    refine ((h top a).append hrest).congr fun x y => ?_
    rcases Nat.lt_trichotomy y top with hlt | rfl | hgt
    · have hnot : ¬ top ≤ y := by omega
      have hnot' : ¬ top + 1 ≤ y := by omega
      rw [if_neg hnot', if_neg hnot, if_neg (Nat.ne_of_lt hlt)]
      rfl
    · have hnot : ¬ y + 1 ≤ y := by omega
      rw [if_neg hnot, if_pos rfl, if_pos (Nat.le_refl y), Nat.sub_self, List.getElem?_cons_zero]
      rfl
    · have hbelow : top + 1 ≤ y := hgt
      have hplace : y - top = y - (top + 1) + 1 := by omega
      rw [if_pos hbelow, if_neg (Nat.ne_of_gt hgt), if_pos (Nat.le_of_lt hgt), hplace,
        List.getElem?_cons_succ, Option.or_none]

end Draws

namespace Prints

variable {commands : List Command} {gs : List Glyph}

/-- What is printed after a move of the cursor. -/
theorem draws (h : Prints commands gs) (column row : Nat) :
    Draws (.moveTo column row :: commands)
      (fun x y => if y = row then (if column ≤ x then gs[x - column]? else none) else none) where
  pen s hpen := by
    rw [Sheet.run_cons, h.run (s.apply (.moveTo column row)) hpen]
    exact hpen
  glyphs s hpen x y := by
    rw [Sheet.run_cons, h.run (s.apply (.moveTo column row)) hpen]
    show (if y = row ∧ column ≤ x then gs[x - column]?.getD (s.glyphs x y) else s.glyphs x y) = _
    by_cases hrow : y = row
    · by_cases hleft : column ≤ x
      · rw [if_pos ⟨hrow, hleft⟩, if_pos hrow, if_pos hleft]
      · rw [if_neg (fun hboth => hleft hboth.2), if_pos hrow, if_neg hleft]
        rfl
    · rw [if_neg (fun hboth => hrow hboth.1), if_neg hrow]
      rfl

/-- What is printed on a line that has been cleared. -/
theorem draws_line (h : Prints commands gs) (row : Nat) :
    Draws (.moveTo 0 row :: .clearLine :: commands)
      (fun x y => if y = row then some (gs[x]?.getD .blank) else none) where
  pen s hpen := by
    rw [Sheet.run_cons, Sheet.run_cons, h.run ((s.apply (.moveTo 0 row)).apply .clearLine) hpen]
    exact hpen
  glyphs s hpen x y := by
    rw [Sheet.run_cons, Sheet.run_cons, h.run ((s.apply (.moveTo 0 row)).apply .clearLine) hpen]
    show (if y = row ∧ 0 ≤ x then gs[x - 0]?.getD (if y = row then .blank else s.glyphs x y)
      else if y = row then .blank else s.glyphs x y) = _
    by_cases hrow : y = row
    · rw [if_pos ⟨hrow, Nat.zero_le x⟩, if_pos hrow, if_pos hrow, Nat.sub_zero, Option.getD_some]
    · rw [if_neg (fun hboth => hrow hboth.1), if_neg hrow, if_neg hrow]
      rfl

/-- A text fits in a row with enough columns behind its place. -/
theorem fits {size : ScreenSize} (h : Prints commands gs) {column row : Nat}
    (hrow : row < size.rows) (hcolumn : column < size.columns)
    (hwidth : column + gs.length ≤ size.columns) :
    Fits size (.moveTo column row :: commands) := by
  intro s hpen
  refine ⟨⟨⟨hcolumn, hrow⟩, h.holds size _ hpen hwidth⟩, ?_⟩
  exact (h.draws column row).pen s hpen

/-- A text fits in a row of its own with enough columns. -/
theorem fits_line {size : ScreenSize} (h : Prints commands gs) {row : Nat} (hrow : row < size.rows)
    (hcolumn : 0 < size.columns) (hwidth : gs.length ≤ size.columns) :
    Fits size (.moveTo 0 row :: .clearLine :: commands) := by
  intro s hpen
  refine ⟨⟨⟨hcolumn, hrow⟩, trivial, h.holds size _ hpen ?_⟩, (h.draws_line row).pen s hpen⟩
  show 0 + gs.length ≤ size.columns
  rwa [Nat.zero_add]

end Prints

namespace Fits

variable {size : ScreenSize} {first second : List Command}

theorem nil : Fits size [] := fun _ hpen => ⟨trivial, hpen⟩

theorem append (h : Fits size first) (h' : Fits size second) : Fits size (first ++ second) := by
  intro s hpen
  obtain ⟨hfirst, hpen'⟩ := h s hpen
  obtain ⟨hsecond, hpen''⟩ := h' _ hpen'
  rw [Sheet.holdsAll_append, Sheet.run_append]
  exact ⟨⟨hfirst, hsecond⟩, hpen''⟩

theorem flatten {parts : List (List Command)} (h : ∀ part ∈ parts, Fits size part) :
    Fits size parts.flatten := by
  induction parts with
  | nil => exact nil
  | cons part rest ih =>
    obtain ⟨hpart, hrest⟩ := List.forall_mem_cons.1 h
    exact hpart.append (ih hrest)

end Fits

end SpriteStage.Terminal
