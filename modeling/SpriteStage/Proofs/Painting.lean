import SpriteStage.Proofs.Screen
import SpriteStage.Proofs.Sessions

/-!
# The picture on the screen

A console draws the stage whole or by its changes, and the status only when it has changed. On a
terminal with room for everything (`Roomy`), whatever comes in and however it is resized, the stage
on the screen is nevertheless the picture of the scene, and the status is that of the studio
(`picture_on_screen`).
-/

namespace SpriteStage.Console

open Terminal

variable {size : ScreenSize} {c : Console}

/-! ## What fits on a screen -/

/-- The terminal has room for what is drawn of a studio. -/
structure Roomy (size : ScreenSize) (s : Studio) : Prop where
  rows : menuRows + 1 ≤ size.rows
  panel : panelWidth ≤ size.columns
  menu : (menuChars s.settings.keys).length ≤ size.columns
  status : (statusText s).length ≤ size.columns

theorem Roomy.columns_pos {s : Studio} (h : Roomy size s) : 0 < size.columns :=
  Nat.lt_of_lt_of_le (by decide) h.panel

/-- The panel is beside the stage. -/
theorem Roomy.columns_canvas {s : Studio} (h : Roomy size s) :
    (canvasOf size).columns + panelWidth = size.columns :=
  Nat.sub_add_cancel h.panel

/-- The menu bar is above the stage and the status below it. -/
theorem Roomy.rows_canvas {s : Studio} (h : Roomy size s) :
    (canvasOf size).rows + menuRows + 1 = size.rows :=
  Nat.sub_add_cancel h.rows

/-- Only the keys and the status matter. -/
theorem Roomy.of_eq {s t : Studio} (h : Roomy size s) (hkeys : t.settings.keys = s.settings.keys)
    (htext : statusText t = statusText s) : Roomy size t where
  rows := h.rows
  panel := h.panel
  menu := by
    rw [hkeys]
    exact h.menu
  status := by
    rw [htext]
    exact h.status

/-- Rows that fit, one below the other. -/
theorem fits_rows {α : Type} {draw : Nat → α → List Command} {items : List α}
    (h : ∀ y a, items[y]? = some a → Fits size (draw y a)) :
    Fits size (items.mapIdx draw).flatten := by
  apply Fits.flatten
  intro part hpart
  obtain ⟨y, hy, rfl⟩ := List.mem_mapIdx.1 hpart
  exact h y items[y] (List.getElem?_eq_getElem hy)

/-- A grid fits on a screen with as many rows and columns below the menu bar. -/
theorem fits_grid {g : Grid} {width height : Nat} (hsize : g.HasSize width height)
    (hrows : height + menuRows ≤ size.rows) (hwidth : width ≤ size.columns)
    (hcolumns : 0 < size.columns) : Fits size (drawGrid g) := by
  apply fits_rows
  intro y row hrow
  have hy : y < height := by
    rw [← hsize.rows]
    exact (List.getElem?_eq_some_iff.1 hrow).1
  apply (Prints.cells row).fits (by omega) hcolumns
  rw [List.length_map, hsize.columns y row hrow]
  omega

/-- Changes fit where their places are on the screen. -/
theorem fits_changes {changes : List CellChange}
    (h : ∀ change ∈ changes,
      change.x.toNat < size.columns ∧ change.y.toNat + menuRows < size.rows) :
    Fits size (drawChanges changes) := by
  unfold drawChanges
  rw [List.flatMap_def]
  apply Fits.flatten
  intro part hpart
  obtain ⟨change, hchange, rfl⟩ := List.mem_map.1 hpart
  obtain ⟨hx, hy⟩ := h change hchange
  exact (Prints.cell change.cell).fits hy hx hx

/-- The stage fits, drawn as a whole or by its changes. -/
theorem fits_paintStage (full : Bool) (hrows : c.canvas.rows + menuRows ≤ size.rows)
    (hwidth : c.canvas.columns ≤ size.columns) (hcolumns : 0 < size.columns) :
    Fits size (c.paintStage full).2 := by
  unfold paintStage
  dsimp only
  split
  · exact fits_grid c.hasSize_picture hrows hwidth hcolumns
  · apply fits_changes
    intro change hchange
    obtain ⟨-, -, hcell, -⟩ := c.addressable_picture.mem_changes_iff.1 hchange
    have hin := c.hasSize_picture.of_cell? hcell
    omega

/-- The panel fits beside a stage that leaves as many columns as it has. -/
theorem fits_panel (hrows : c.canvas.rows + menuRows ≤ size.rows)
    (hwidth : c.canvas.columns + panelWidth ≤ size.columns) : Fits size c.drawPanel := by
  apply fits_rows
  intro y l hl
  have hy : y < c.canvas.rows := by
    have hlt := (List.getElem?_eq_some_iff.1 hl).1
    rw [List.length_take] at hlt
    omega
  have hpanel : panelWidth = 30 := rfl
  apply (prints_panelLine l).fits (by omega) (by omega)
  have hlength : l.glyphs.length ≤ panelWidth := by
    unfold PanelLine.glyphs
    rw [List.length_cons, List.length_map, List.length_take]
    omega
  omega

/-- The menu bar fits in the first row of a screen that is wide enough for it. -/
theorem fits_menu (hrows : 0 < size.rows) (hcolumns : 0 < size.columns)
    (hwidth : (menuChars c.studio.settings.keys).length ≤ size.columns) :
    Fits size c.drawMenu := by
  obtain ⟨gs, hgs, hchars⟩ :=
    (Types.print " ").append (Types.items (menuItems c.studio.settings.keys))
  apply hgs.fits_line hrows hcolumns
  have hlength : gs.length = (menuChars c.studio.settings.keys).length := by
    rw [← List.length_map (f := (·.char)), hchars]
    rfl
  rw [hlength]
  exact hwidth

/-- A status fits in a row of its own that is wide enough for it. -/
theorem fits_status (status : String) {row : Nat} (hrow : row < size.rows)
    (hcolumns : 0 < size.columns) (hwidth : status.length ≤ size.columns) :
    Fits size [.moveTo 0 row, .clearLine, .styled { dim := true } status] := by
  apply (Prints.styled { dim := true } status).fits_line hrow hcolumns
  rw [List.length_map, String.length_toList]
  exact hwidth

/-- The status line fits, if it is drawn at all. -/
theorem fits_paintStatus (force : Bool) (hrows : c.canvas.rows + menuRows < size.rows)
    (hcolumns : 0 < size.columns) (hwidth : (statusText c.studio).length ≤ size.columns) :
    Fits size (c.paintStatus force).2 := by
  unfold paintStatus
  dsimp only
  split
  · exact Fits.nil
  · exact fits_status _ hrows hcolumns hwidth

/-- Everything fits on a terminal with room for it. -/
theorem fits_redraw (h : Roomy size c.studio) : Fits size (c.redraw size).2 := by
  have hcolumns : (c.measured size).canvas.columns + panelWidth = size.columns := h.columns_canvas
  have hrows : (c.measured size).canvas.rows + menuRows + 1 = size.rows := h.rows_canvas
  have hpos := h.columns_pos
  have hclear : Fits size [.clearAll] := fun s hpen => ⟨⟨trivial, trivial⟩, hpen⟩
  have hmenu : Fits size (c.measured size).drawMenu := fits_menu (by omega) hpos h.menu
  have hgrid : Fits size (drawGrid (c.measured size).picture) :=
    fits_grid (c.measured size).hasSize_picture (by omega) (by omega) hpos
  have hsprites : Fits size (c.measured size).drawPanel := fits_panel (by omega) (by omega)
  have hlast : (c.measured size).canvas.rows + menuRows < size.rows := by omega
  have hstatus := fits_status (statusText (c.measured size).studio) hlast hpos h.status
  exact (((hclear.append hmenu).append hgrid).append hsprites).append hstatus

/-- The changes fit on the terminal that everything was drawn on. -/
theorem fits_pass {dt : Duration} (hcanvas : c.canvas = canvasOf size)
    (h : Roomy size (c.pass dt).1.studio) : Fits size (c.pass dt).2 := by
  let advanced : Console := { c with studio := c.studio.advance dt }
  have hcolumns : advanced.canvas.columns + panelWidth = size.columns := by
    rw [← h.columns_canvas, ← hcanvas]
  have hrows : advanced.canvas.rows + menuRows + 1 = size.rows := by
    rw [← h.rows_canvas, ← hcanvas]
  have hpos := h.columns_pos
  have htext : (statusText advanced.studio).length ≤ size.columns := by
    have hstatus := h.status
    rwa [studio_pass] at hstatus
  have hstage : Fits size (advanced.paintStage false).2 :=
    fits_paintStage false (by omega) (by omega) hpos
  have hlast : (advanced.paintStage false).1.canvas.rows + menuRows < size.rows := by
    show advanced.canvas.rows + menuRows < size.rows
    omega
  exact hstage.append (fits_paintStatus false hlast hpos htext)

/-! ## The console on a terminal -/

/-- What a console is after its turns on a terminal, and what is on the screen of the terminal. As a
terminal is resized its screen may change in any way, but not its pen, and the next event is that of
the resize. -/
inductive OnScreen (d : Device) (studio : Studio) : ScreenSize → Console → Sheet → Prop
  | start (size : ScreenSize) (s : Sheet) (hpen : s.pen = {}) (hroom : Roomy size studio) :
      OnScreen d studio size ((Console.start studio).redraw size).1
        (d.run size s ((Console.start studio).redraw size).2)
  | turn {size : ScreenSize} {c c' : Console} {s : Sheet} {commands : List Command}
      (h : OnScreen d studio size c s) (m : Moment) (event : Option Event) (dt : Duration)
      (hevent : event ≠ some .resize) (hstep : c.step size m event dt = .next c' commands)
      (hroom : Roomy size (c.heard m event)) (hroom' : Roomy size c'.studio) :
      OnScreen d studio size c' (d.run size s commands)
  | resized {size : ScreenSize} {c c' : Console} {s : Sheet} {commands : List Command}
      (h : OnScreen d studio size c s) (size' : ScreenSize) (s' : Sheet) (hpen : s'.pen = s.pen)
      (m : Moment) (dt : Duration)
      (hstep : c.step size' m (some .resize) dt = .next c' commands)
      (hroom : Roomy size' c.studio) (hroom' : Roomy size' c'.studio) :
      OnScreen d studio size' c' (d.run size' s' commands)

/-- The console knows what is on a screen of some size, and that is what there is to see. -/
structure UpToDate (size : ScreenSize) (c : Console) (s : Sheet) : Prop extends c.Painted s where
  canvas : c.canvas = canvasOf size
  grid : c.grid = c.picture
  text : c.status = statusText c.studio
  room : Roomy size c.studio

theorem grid_pass (c : Console) (dt : Duration) : (c.pass dt).1.grid = (c.pass dt).1.picture := by
  unfold pass paintStatus
  dsimp only
  split <;> rfl

theorem status_pass (c : Console) (dt : Duration) :
    (c.pass dt).1.status = statusText (c.pass dt).1.studio := by
  unfold pass paintStatus
  dsimp only
  split
  · rename_i hsame
    simp only [Bool.not_false, Bool.true_and, decide_eq_true_eq] at hsame
    exact hsame.symm
  · rfl

/-- A console that knows what is on the screen is up to date when the changes are drawn. -/
theorem upToDate_pass {s : Sheet} {dt : Duration} (hcanvas : c.canvas = canvasOf size)
    (hpainted : (c.pass dt).1.Painted s) (hroom : Roomy size (c.pass dt).1.studio) :
    UpToDate size (c.pass dt).1 s where
  toPainted := hpainted
  canvas := by rw [canvas_pass, hcanvas]
  grid := grid_pass c dt
  text := status_pass c dt
  room := hroom

/-- **A turn on a terminal.** With room for what is drawn, the terminal does what a sheet does, and
the console is up to date afterwards. -/
theorem upToDate_step (d : Device) {c' : Console} {s : Sheet} {m : Moment} {event : Option Event}
    {dt : Duration} {commands : List Command} (hstep : c.step size m event dt = .next c' commands)
    (hpen : s.pen = {}) (h : event ≠ some .resize → UpToDate size c s)
    (hroom : Roomy size (c.heard m event)) (hroom' : Roomy size c'.studio) :
    UpToDate size c' (d.run size s commands) := by
  have hpainted := painted_step hstep hpen fun hevent => (h hevent).toPainted
  rcases step_cases hstep with
    ⟨-, hevent, -, rfl, rfl⟩ | ⟨-, before, drawn, hbefore, ⟨on, rfl⟩, rfl, rfl⟩
  · have hcanvas := (h hevent).canvas
    rw [d.run_of_holdsAll (fits_pass hcanvas hroom' s hpen).1]
    exact upToDate_pass hcanvas hpainted hroom'
  · have hfits : Fits size (before ++ ((redraw { c with
        studio := c.heard m event, fullscreen := on } size).2 ++
          ((redraw { c with studio := c.heard m event, fullscreen := on } size).1.pass dt).2)) := by
      refine Fits.append ?_ ((fits_redraw hroom).append (fits_pass rfl hroom'))
      rcases hbefore with rfl | ⟨on, rfl⟩
      · exact Fits.nil
      · exact fun s hpen => ⟨⟨trivial, trivial⟩, hpen⟩
    rw [d.run_of_holdsAll (hfits s hpen).1]
    exact upToDate_pass rfl hpainted hroom'

/-- After any turns on a terminal the console is up to date. -/
theorem upToDate_of_onScreen {d : Device} {studio : Studio} {s : Sheet}
    (h : OnScreen d studio size c s) : UpToDate size c s := by
  induction h with
  | start size s hpen hroom =>
    rw [d.run_of_holdsAll (fits_redraw (c := Console.start studio) hroom s hpen).1]
    exact ⟨painted_redraw _ size hpen, rfl, rfl, rfl, hroom.of_eq rfl rfl⟩
  | turn _ m event dt hevent hstep hroom hroom' ih =>
    exact upToDate_step d hstep ih.pen (fun _ => ih) hroom hroom'
  | resized _ size' s' hpen m dt hstep hroom hroom' ih =>
    exact upToDate_step d hstep (hpen.trans ih.pen) (fun hevent => absurd rfl hevent) hroom hroom'

/-- **The picture on the screen.** After any turns on a terminal with room for what is drawn,
whatever comes in, however much time passes and however the terminal is resized, the stage on its
screen is the picture of the scene and the last row is the status line. -/
theorem picture_on_screen {d : Device} {studio : Studio} {s : Sheet}
    (h : OnScreen d studio size c s) :
    (∀ x y, x < size.columns - panelWidth → y < size.rows - (menuRows + 1) →
      ∃ cell, ((scene c.studio).picture (size.columns - panelWidth)
          (size.rows - (menuRows + 1))).cell? x y = some cell ∧
        s.glyphs x (y + menuRows) = ⟨cell.char, ⟨cell.style, false⟩⟩) ∧
      ∀ x, s.glyphs x (size.rows - 1) =
        ((statusText c.studio).toList.map fun char =>
          (⟨char, ⟨{ dim := true }, false⟩⟩ : Glyph))[x]?.getD ⟨' ', {}⟩ := by
  have hdate := upToDate_of_onScreen h
  have hpicture : c.grid = (scene c.studio).picture (size.columns - panelWidth)
      (size.rows - (menuRows + 1)) := by
    rw [hdate.grid, picture, hdate.canvas]
    rfl
  refine ⟨fun x y hx hy => ?_, fun x => ?_⟩
  · have hcell := (hdate.shape.isSome_cell? x y).2 (by rw [hdate.canvas]; exact ⟨hx, hy⟩)
    obtain ⟨cell, hcell⟩ := Option.isSome_iff_exists.1 hcell
    rw [← hpicture]
    exact ⟨cell, hcell, hdate.stage x y cell hcell⟩
  · have hrow : size.rows - 1 = c.canvas.rows + menuRows := by
      rw [hdate.canvas, ← hdate.room.rows_canvas]
      rfl
    rw [hrow, hdate.status x, hdate.text]
    rfl

/-- While no session is on, time leaves the status as it is. -/
theorem atRest_advance {studio : Studio} (h : studio.run.playback.AtRest)
    (hswap : studio.run.playback.lastSwap = none) (dt : Duration) :
    (studio.advance dt).run.playback.AtRest ∧
      (studio.advance dt).run.playback.lastSwap = none ∧
      statusText (studio.advance dt) = statusText studio := by
  have hrest : studio.run.sync.playback.AtRest :=
    (Playback.Orderly.sync (Or.inl h) _).atRest_of_mode (Run.mode_sync_of_stopped h.mode)
  have halike := Playback.alike_sync studio.run.playback studio.run.program.sprites
  have hnone : studio.run.sync.playback.queue.popDue? (studio.run.playback.clock + dt) = none := by
    rw [Queue.popDue?_eq_none_iff, hrest.timers]
    simp
  have hadvance : (studio.advance dt).run.playback =
      { studio.run.sync.playback with clock := studio.run.playback.clock + dt } := by
    show { (Run.drain (studio.run.playback.clock + dt) studio.run.sync).playback with
      clock := studio.run.playback.clock + dt } = _
    rw [Run.drain_of_none hnone]
  have hswap' : (studio.advance dt).run.playback.lastSwap = none := by
    rw [hadvance]
    exact halike.lastSwap.trans hswap
  have hrest' : (studio.advance dt).run.playback.AtRest := by
    rw [hadvance]
    exact ⟨hrest.mode, hrest.timers, hrest.bubbles, hrest.highlighted⟩
  have hticks : (studio.advance dt).run.playback.ticks = studio.run.playback.ticks := by
    rw [hadvance]
    exact halike.ticks
  refine ⟨hrest', hswap', ?_⟩
  unfold statusText
  dsimp only
  rw [hswap, hswap', hticks, Playback.isRunning_eq_false_iff.2 h.mode,
    Playback.isRunning_eq_false_iff.2 hrest'.mode]

theorem statusText_redraw (c : Console) (size : ScreenSize) :
    statusText (c.redraw size).1.studio = statusText c.studio := rfl

theorem atRest_redraw (h : c.studio.run.playback.AtRest) (size : ScreenSize) :
    (c.redraw size).1.studio.run.playback.AtRest :=
  ⟨h.mode, h.timers, h.bubbles, h.highlighted⟩

theorem lastSwap_redraw (c : Console) (size : ScreenSize) :
    (c.redraw size).1.studio.run.playback.lastSwap = c.studio.run.playback.lastSwap := rfl

theorem step_none (c : Console) (size : ScreenSize) (m : Moment) (dt : Duration) :
    c.step size m none dt = .next (c.pass dt).1 (c.pass dt).2 := rfl

theorem step_resize (c : Console) (size : ScreenSize) (m : Moment) (dt : Duration) :
    c.step size m (some .resize) dt =
      .next ((c.redraw size).1.pass dt).1
        ((c.redraw size).2 ++ ((c.redraw size).1.pass dt).2) := rfl

/-- What is on the screen when nobody plays the program, some time passes, the terminal is resized
and some more time passes. -/
theorem onScreen_of_atRest (d : Device) {studio : Studio} {size' : ScreenSize}
    (hrest : studio.run.playback.AtRest) (hswap : studio.run.playback.lastSwap = none)
    (hroom : Roomy size studio) (hroom' : Roomy size' studio) (dt dt' : Duration) :
    let second := ((Console.start studio).redraw size).1.pass dt
    let third := second.1.redraw size'
    let last := third.1.pass dt'
    OnScreen d studio size' last.1 (d.run size' .blank (third.2 ++ last.2)) := by
  intro second third last
  -- the status stays the same in both turns
  have hrest₁ := atRest_redraw (c := Console.start studio) hrest size
  have hswap₁ := (lastSwap_redraw (Console.start studio) size).trans hswap
  obtain ⟨hrest₂, hswap₂, htext₂⟩ := atRest_advance hrest₁ hswap₁ dt
  rw [← studio_pass] at hrest₂ hswap₂ htext₂
  rw [statusText_redraw] at htext₂
  have hrest₃ := atRest_redraw (c := second.1) hrest₂ size'
  have hswap₃ := (lastSwap_redraw second.1 size').trans hswap₂
  obtain ⟨-, -, htext₃⟩ := atRest_advance hrest₃ hswap₃ dt'
  rw [← studio_pass, statusText_redraw] at htext₃
  have hkeys₂ : second.1.studio.settings.keys = studio.settings.keys := by
    rw [studio_pass]
    rfl
  have hkeys₃ : last.1.studio.settings.keys = studio.settings.keys := by
    rw [studio_pass]
    exact hkeys₂
  have hroom₂ : Roomy size second.1.studio := hroom.of_eq hkeys₂ htext₂
  have hroom₂' : Roomy size' second.1.studio := hroom'.of_eq hkeys₂ htext₂
  have hroom₃ : Roomy size' last.1.studio := hroom'.of_eq hkeys₃ (htext₃.trans htext₂)
  have hstep := step_none ((Console.start studio).redraw size).1 size ⟨0, 0⟩ dt
  have hstep' := step_resize second.1 size' ⟨0, 0⟩ dt'
  have hstart := OnScreen.start (d := d) size .blank rfl hroom
  have hturn := hstart.turn ⟨0, 0⟩ none dt (by simp) hstep (hroom.of_eq rfl rfl) hroom₂
  have hpen := (upToDate_of_onScreen hturn).pen.symm
  exact hturn.resized size' .blank hpen ⟨0, 0⟩ dt' hstep' hroom₂' hroom₃

/-- A program that nobody plays, on a terminal that is resized. -/
theorem picture_on_screen_starter :
    let studio : Studio := .enter .starter {} 7
    let size : ScreenSize := ⟨130, 30⟩
    let second := ((Console.start studio).redraw ⟨120, 24⟩).1.pass (.ofMillis 500)
    let third := second.1.redraw size
    let last := third.1.pass (.ofMillis 40)
    let s := Device.heedless.run size .blank (third.2 ++ last.2)
    OnScreen .heedless studio size last.1 s ∧
      (∀ x y, x < size.columns - panelWidth → y < size.rows - (menuRows + 1) →
        ∃ cell, ((scene last.1.studio).picture (size.columns - panelWidth)
            (size.rows - (menuRows + 1))).cell? x y = some cell ∧
          s.glyphs x (y + menuRows) = ⟨cell.char, ⟨cell.style, false⟩⟩) ∧
      ∀ x, s.glyphs x (size.rows - 1) =
        ((statusText last.1.studio).toList.map fun char =>
          (⟨char, ⟨{ dim := true }, false⟩⟩ : Glyph))[x]?.getD ⟨' ', {}⟩ := by
  intro studio size second third last s
  have hreach : Run.Reachable studio.run := (Run.Reachable.fresh {} 7 .starter).call .sync
  have hrest : studio.run.playback.AtRest :=
    (Run.invariant_orderly.reachable hreach).atRest_of_mode (Run.mode_sync_of_stopped rfl)
  have hroom : Roomy ⟨120, 24⟩ studio :=
    ⟨by decide, by decide, by decide +kernel, by decide +kernel⟩
  have hroom' : Roomy size studio :=
    ⟨by decide, by decide, by decide +kernel, by decide +kernel⟩
  have hscreen := onScreen_of_atRest .heedless hrest rfl hroom hroom' (.ofMillis 500) (.ofMillis 40)
  exact ⟨hscreen, picture_on_screen hscreen⟩

end SpriteStage.Console
