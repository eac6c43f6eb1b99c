import SpriteStage.Proofs.Grids
import SpriteStage.Proofs.Sheet

/-!
# What a console draws

The parts of the screen are drawn beside each other: the menu bar (`draws_menu`), the stage, whole
or by its changes (`draws_paintStage`), the panel (`draws_panel`) and the status (`draws_status`).
From this it follows what everything together leaves on a screen (`draws_all`).
-/

namespace SpriteStage

open Terminal

/-! ## What is printed -/

/-- A cell as it is seen on a screen. -/
def Cell.glyph (c : Cell) : Glyph := ⟨c.char, ⟨c.style, false⟩⟩

namespace Menu

/-- A plain segment has the text that it was made of, and none is made of nothing. -/
theorem text_plain (cs : List Char) : (plain cs).flatMap (·.text.toList) = cs := by
  unfold plain
  split
  · rename_i hempty
    rw [List.isEmpty_iff.1 hempty]
    rfl
  · simp

/-- Cutting an item into segments loses none of its characters. -/
theorem text_segmentsOf (cs : List Char) : (segmentsOf cs).flatMap (·.text.toList) = cs := by
  fun_induction segmentsOf cs with
  | case1 cs h => exact text_plain cs
  | case2 cs opening rest h before h' =>
    have hcs := List.takeWhile_append_dropWhile (p := (· ≠ '[')) (l := cs)
    rw [List.flatMap_append, text_plain, text_plain]
    rw [h] at hcs
    exact hcs
  | case3 cs opening rest h before closing after h' inside ih =>
    have hcs := List.takeWhile_append_dropWhile (p := (· ≠ '[')) (l := cs)
    have hrest := List.takeWhile_append_dropWhile (p := (· ≠ ']')) (l := rest)
    rw [List.flatMap_append, List.flatMap_cons, text_plain, ih, String.toList_ofList]
    rw [h] at hcs
    rw [h'] at hrest
    calc cs.takeWhile (· ≠ '[') ++ (opening :: rest.takeWhile (· ≠ ']') ++ [closing] ++ after)
        = cs.takeWhile (· ≠ '[') ++ opening :: (rest.takeWhile (· ≠ ']') ++ closing :: after) := by
          simp
      _ = cs := by rw [hrest, hcs]

end Menu

namespace Terminal.Prints

theorem cell (c : Cell) : Prints [printCell c] [c.glyph] := by
  have hstyled := styled c.style (String.singleton c.char)
  rwa [String.toList_singleton] at hstyled

theorem cells (row : List Cell) : Prints (row.map printCell) (row.map Cell.glyph) := by
  have hflat := flatten cell row
  rwa [← List.map_eq_flatMap, ← List.map_eq_flatMap] at hflat

end Terminal.Prints

namespace Terminal

/-- Where the pen is plain, the commands print these characters, each in some pen. -/
def Types (commands : List Command) (cs : List Char) : Prop :=
  ∃ gs, Prints commands gs ∧ gs.map (·.char) = cs

namespace Types

theorem nil : Types [] [] := ⟨[], Prints.nil, rfl⟩

theorem append {first second : List Command} {cs ds : List Char} (h : Types first cs)
    (h' : Types second ds) : Types (first ++ second) (cs ++ ds) := by
  obtain ⟨gs, hgs, rfl⟩ := h
  obtain ⟨hs, hhs, rfl⟩ := h'
  exact ⟨gs ++ hs, hgs.append hhs, List.map_append⟩

/-- A printed text is typed character by character. -/
theorem print (text : String) : Types [.print text] text.toList := by
  refine ⟨_, Prints.print text, ?_⟩
  rw [List.map_map]
  exact List.map_id _

/-- An item of the menu bar is printed with all of its characters. -/
theorem item (text : String) : Types (printItem text) text.toList := by
  have hsegment : ∀ s : Menu.Segment,
      Prints [.attribute (if s.bold then .bold else .dim), .print s.text, .attribute .reset]
        (s.text.toList.map fun c => ⟨c, Pen.switch {} (if s.bold then .bold else .dim)⟩) :=
    fun s => Prints.attributed _ _
  refine ⟨_, Prints.flatten hsegment (Menu.segments text), ?_⟩
  rw [List.map_flatMap]
  simp only [List.map_map, Function.comp_def, List.map_id']
  exact Menu.text_segmentsOf text.toList

/-- Items of the menu bar are printed with two blanks between them. -/
theorem items (texts : List String) :
    Types ((texts.map printItem).intersperse [.print "  "]).flatten
      ((texts.map (·.toList)).intersperse [' ', ' ']).flatten := by
  induction texts with
  | nil => exact nil
  | cons text rest ih =>
    cases rest with
    | nil =>
      have hitem := (item text).append nil
      exact hitem
    | cons next rest =>
      have hblanks := (item text).append ((print "  ").append ih)
      exact hblanks

end Types

end Terminal

namespace Console

/-! ## Parts of the screen -/

/-- A line of the panel as it is seen on a screen, with the edge of the panel before it. -/
def PanelLine.glyphs (l : PanelLine) : List Glyph :=
  ⟨'│', {}⟩ :: (l.text.toList.take (panelWidth - 1)).map fun c => ⟨c, ⟨{}, l.selected⟩⟩

/-- What is seen in the panel of a studio, at a place counted from its corner. -/
def panelGlyph (s : Studio) (x y : Nat) : Glyph :=
  ((panelLines s)[y]?.bind (·.glyphs[x]?)).getD .blank

/-- What is seen of a status text in a column. -/
def statusGlyph (status : String) (x : Nat) : Glyph :=
  (status.toList.map fun c => (⟨c, ⟨{ dim := true }, false⟩⟩ : Glyph))[x]?.getD .blank

/-- All cells of a grid are drawn, below the menu bar. -/
theorem draws_grid (g : Grid) :
    Draws (drawGrid g)
      (fun x y => if menuRows ≤ y then (g.cell? x (y - menuRows)).map Cell.glyph else none) := by
  have hrow : ∀ (y : Nat) (row : List Cell),
      Draws (.moveTo 0 y :: row.map printCell)
        (fun x y' => if y' = y then (row.map Cell.glyph)[x]? else none) := by
    intro y row
    exact (Prints.cells row).draws 0 y
  refine (Draws.rows hrow g menuRows).congr fun x y => ?_
  unfold Grid.cell?
  cases g[y - menuRows]? with
  | none => rfl
  | some row =>
    simp only [Option.bind_eq_bind, Option.bind_some, List.getElem?_map]

/-- At each place the last change there is drawn, if there is one. -/
theorem draws_changes (changes : List CellChange) :
    ∃ f, Draws (drawChanges changes) f ∧ ∀ x y,
      (∃ change ∈ changes, change.x.toNat = x ∧ change.y.toNat + menuRows = y ∧
        f x y = some change.cell.glyph) ∨
      f x y = none ∧
        ∀ change ∈ changes, ¬ (change.x.toNat = x ∧ change.y.toNat + menuRows = y) := by
  induction changes with
  | nil => exact ⟨_, Draws.nil, fun x y => Or.inr ⟨rfl, by simp⟩⟩
  | cons change rest ih =>
    obtain ⟨f, hf, hrest⟩ := ih
    have hfirst := (Prints.cell change.cell).draws change.x.toNat (change.y.toNat + menuRows)
    refine ⟨_, hfirst.append hf, fun x y => ?_⟩
    rcases hrest x y with ⟨later, hlater, hx, hy, hsome⟩ | ⟨hnone, hno⟩
    · exact Or.inl ⟨later, List.mem_cons_of_mem _ hlater, hx, hy, by rw [hsome]; rfl⟩
    · rw [hnone, Option.none_or]
      by_cases hplace : change.x.toNat = x ∧ change.y.toNat + menuRows = y
      · obtain ⟨rfl, rfl⟩ := hplace
        refine Or.inl ⟨change, List.mem_cons_self, rfl, rfl, ?_⟩
        rw [if_pos rfl, if_pos (Nat.le_refl _), Nat.sub_self]
        rfl
      · refine Or.inr ⟨?_, List.forall_mem_cons.2 ⟨hplace, hno⟩⟩
        split
        · rename_i hy
          split
          · rename_i hle
            have hx : change.x.toNat ≠ x := fun hx => hplace ⟨hx, hy.symm⟩
            apply List.getElem?_eq_none
            show 1 ≤ x - change.x.toNat
            omega
          · rfl
        · rfl

/-- A line of the panel prints its glyphs, reversed if it is selected. -/
theorem prints_panelLine (l : PanelLine) :
    let text := String.ofList (l.text.toList.take (panelWidth - 1))
    Prints (.print "│" :: if l.selected then [.attribute .reverse, .print text, .attribute .reset]
      else [.print text]) l.glyphs := by
  intro text
  have hedge := Prints.print "│"
  cases hselected : l.selected with
  | true =>
    have hprints := Prints.attributed .reverse text
    rw [String.toList_ofList] at hprints
    unfold PanelLine.glyphs
    rw [hselected]
    exact hedge.append hprints
  | false =>
    have hprints := Prints.print text
    rw [String.toList_ofList] at hprints
    unfold PanelLine.glyphs
    rw [hselected]
    exact hedge.append hprints

/-- The panel is drawn line by line, beside the stage. -/
theorem draws_panel (c : Console) :
    Draws c.drawPanel (fun x y =>
      if menuRows ≤ y then
        ((panelLines c.studio).take c.canvas.rows)[y - menuRows]?.bind fun l =>
          if c.canvas.columns ≤ x then l.glyphs[x - c.canvas.columns]? else none
      else none) := by
  have hline := fun (y : Nat) (l : PanelLine) => (prints_panelLine l).draws c.canvas.columns y
  exact Draws.rows hline _ menuRows

/-- The characters of the menu bar. -/
def menuChars (k : KeyBindings) : List Char :=
  ' ' :: (((menuItems k).map (·.toList)).intersperse [' ', ' ']).flatten

/-- The menu bar is drawn in the first row. -/
theorem draws_menu (c : Console) :
    ∃ look : Nat → Glyph, Draws c.drawMenu (fun x y => if y = 0 then some (look x) else none) := by
  obtain ⟨gs, hgs, -⟩ := (Types.print " ").append (Types.items (menuItems c.studio.settings.keys))
  exact ⟨_, hgs.draws_line 0⟩

/-- The status is drawn in a line of its own. -/
theorem draws_status (status : String) (row : Nat) :
    Draws [.moveTo 0 row, .clearLine, .styled { dim := true } status]
      (fun x y => if y = row then some (statusGlyph status x) else none) :=
  (Prints.styled _ status).draws_line row

/-! ### The stage -/

/-- The picture is as large as the stage. -/
theorem hasSize_picture (c : Console) : c.picture.HasSize c.canvas.columns c.canvas.rows :=
  Grid.hasSize_paint _ _ _

/-- A stage on a terminal is small enough for its places to be addressed. -/
theorem addressable_picture (c : Console) : c.picture.Addressable :=
  c.hasSize_picture.addressable (Nat.le_of_lt c.canvas.width.toNat_lt)
    (Nat.le_of_lt c.canvas.height.toNat_lt)

/-- **The stage is drawn within its bounds.** All of its cells are drawn, or those that are not are
as they are in the grid drawn before. -/
theorem draws_paintStage (c : Console) (full : Bool) :
    ∃ f, Draws (c.paintStage full).2 f ∧
      (∀ x y, f x y ≠ none → x < c.canvas.columns ∧ ∃ row < c.canvas.rows, y = row + menuRows) ∧
      ∀ x y cell, c.picture.cell? x y = some cell →
        f x (y + menuRows) = some cell.glyph ∨
          f x (y + menuRows) = none ∧ full = false ∧
            (c.grid.cell? x y = none ∨ c.grid.cell? x y = some cell) := by
  have hsize := c.hasSize_picture
  unfold paintStage
  dsimp only
  split
  · refine ⟨_, draws_grid c.picture, fun x y hsome => ?_, fun x y cell hsome => Or.inl ?_⟩
    · split at hsome
      · rename_i hle
        obtain ⟨glyph, hglyph⟩ := Option.ne_none_iff_exists'.1 hsome
        obtain ⟨cell, hpicture, -⟩ := Option.map_eq_some_iff.1 hglyph
        obtain ⟨hx, hy⟩ := hsize.of_cell? hpicture
        exact ⟨hx, y - menuRows, hy, (Nat.sub_add_cancel hle).symm⟩
      · exact absurd rfl hsome
    · rw [if_pos (Nat.le_add_left _ _), Nat.add_sub_cancel, hsome]
      rfl
  · rename_i hchanges
    have hfull : full = false := by
      cases full with
      | true => exact absurd rfl hchanges
      | false => rfl
    obtain ⟨f, hf, hplaces⟩ := draws_changes (c.grid.changes c.picture)
    refine ⟨f, hf, fun x y hsome => ?_, fun x y cell hsome => ?_⟩
    · rcases hplaces x y with ⟨change, hmem, rfl, rfl, -⟩ | ⟨hnone, -⟩
      · obtain ⟨-, -, hpicture, -⟩ := c.addressable_picture.mem_changes_iff.1 hmem
        obtain ⟨hx, hy⟩ := hsize.of_cell? hpicture
        exact ⟨hx, change.y.toNat, hy, rfl⟩
      · exact absurd hnone hsome
    · rcases hplaces x (y + menuRows) with ⟨change, hmem, rfl, hy, hdrawn⟩ | ⟨hnone, hno⟩
      · obtain ⟨-, -, hpicture, -⟩ := c.addressable_picture.mem_changes_iff.1 hmem
        obtain rfl := Nat.add_right_cancel hy
        rw [hsome] at hpicture
        rw [hdrawn, ← Option.some.inj hpicture]
        exact Or.inl rfl
      · refine Or.inr ⟨hnone, hfull, ?_⟩
        cases hold : c.grid.cell? x y with
        | none => exact Or.inl rfl
        | some old =>
          by_cases hsame : old = cell
          · rw [hsame]
            exact Or.inr rfl
          · have hmem : ⟨x.toUInt16, y.toUInt16, cell⟩ ∈ c.grid.changes c.picture :=
              Grid.mem_changes.2 ⟨x, y, old, cell, hold, hsome, hsame, rfl⟩
            obtain ⟨hx, hy⟩ := c.addressable_picture.of_cell? hsome
            have hx' : x.toUInt16.toNat = x := Nat.mod_eq_of_lt hx
            have hy' : y.toUInt16.toNat = y := Nat.mod_eq_of_lt hy
            exact absurd ⟨hx', congrArg (· + menuRows) hy'⟩ (hno _ hmem)

/-! ## Everything -/

/-- The console on a terminal of some size, before anything is drawn there. -/
def measured (c : Console) (size : ScreenSize) : Console :=
  let viewport := Scene.viewportOf (canvasOf size).columns (canvasOf size).rows
  { c with
    canvas := canvasOf size
    studio := { c.studio with run := { c.studio.run with
      playback := c.studio.run.playback.resize viewport } } }

/-- The commands that draw everything. -/
def drawAll (c : Console) : List Command :=
  [.clearAll] ++ c.drawMenu ++ drawGrid c.picture ++ c.drawPanel ++
    [.moveTo 0 (c.canvas.rows + menuRows), .clearLine,
      .styled { dim := true } (statusText c.studio)]

/-- Drawing everything measures the stage and sends all that there is to draw. -/
theorem redraw_eq (c : Console) (size : ScreenSize) :
    c.redraw size =
      ({ c.measured size with
          grid := (c.measured size).picture
          status := statusText (c.measured size).studio },
        (c.measured size).drawAll) := rfl

/-- **Drawing everything.** Whatever was on the screen, afterwards the stage, the status and the
panel are as they should be. -/
theorem draws_all (c : Console) :
    ∃ f, Draws c.drawAll f ∧
      (∀ x y cell, c.picture.cell? x y = some cell → f x (y + menuRows) = some cell.glyph) ∧
      (∀ x, f x (c.canvas.rows + menuRows) = some (statusGlyph (statusText c.studio) x)) ∧
      ∀ x y, y < c.canvas.rows →
        f (c.canvas.columns + x) (y + menuRows) = some (panelGlyph c.studio x y) := by
  obtain ⟨look, hmenu⟩ := draws_menu c
  have hdraws := (((Draws.clearAll.append hmenu).append (draws_grid c.picture)).append
    (draws_panel c)).append (draws_status (statusText c.studio) (c.canvas.rows + menuRows))
  have hmenuRows : ∀ y, menuRows ≤ y + menuRows := fun y => Nat.le_add_left _ _
  refine ⟨_, hdraws, fun x y cell hsome => ?_, fun x => ?_, fun x y hy => ?_⟩
  · -- the panel is to the right of the stage and the status below it
    obtain ⟨hx, hy⟩ := c.hasSize_picture.of_cell? hsome
    have hrow : ¬ y + menuRows = c.canvas.rows + menuRows := by omega
    have hcolumn : ¬ c.canvas.columns ≤ x := by omega
    simp only [if_neg hrow, if_pos (hmenuRows y), if_neg hcolumn, Nat.add_sub_cancel, hsome,
      Option.bind_fun_none, Option.none_or, Option.map_some, Option.some_or]
  · rw [if_pos rfl]
    rfl
  · -- where the panel has nothing, neither the stage nor the menu bar has
    have hrow : ¬ y + menuRows = c.canvas.rows + menuRows := by omega
    have hfirst : ¬ y + menuRows = 0 := Nat.succ_ne_zero y
    have hstage : c.picture.cell? (c.canvas.columns + x) y = none := by
      cases hcell : c.picture.cell? (c.canvas.columns + x) y with
      | none => rfl
      | some cell =>
        have hin := c.hasSize_picture.of_cell? hcell
        omega
    simp only [if_neg hrow, if_pos (hmenuRows y), if_neg hfirst, Nat.add_sub_cancel, hstage,
      if_pos (Nat.le_add_right _ x), Nat.add_sub_cancel_left, Option.map_none, Option.none_or,
      List.getElem?_take, if_pos hy]
    unfold panelGlyph
    cases (panelLines c.studio)[y]?.bind (·.glyphs[x]?) <;> rfl

end Console

end SpriteStage
