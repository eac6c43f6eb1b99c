import SpriteStage.Proofs.Drawing

/-!
# What a console knows of the screen

A console draws only what differs from what it remembers. This is enough because what it remembers
is what is on the screen (`Painted`): every turn keeps it so, whether it draws everything or the
changes (`painted_step`). The panel is on the screen as it was when everything was drawn last
(`ShowsPanel`).
-/

namespace SpriteStage.Console

open Terminal

/-! ## The screen -/

/-- The console knows what is on the screen: its grid on the stage and its status below. -/
structure Painted (c : Console) (s : Sheet) : Prop where
  pen : s.pen = {}
  shape : c.grid.HasSize c.canvas.columns c.canvas.rows
  stage : ∀ x y cell, c.grid.cell? x y = some cell → s.glyphs x (y + menuRows) = cell.glyph
  status : ∀ x, s.glyphs x (c.canvas.rows + menuRows) = statusGlyph c.status x

/-- The panel on the screen is that of a studio. -/
def ShowsPanel (c : Console) (studio : Studio) (s : Sheet) : Prop :=
  ∀ x y, y < c.canvas.rows →
    s.glyphs (c.canvas.columns + x) (y + menuRows) = panelGlyph studio x y

variable {c : Console} {s : Sheet}

/-- After the changes on the stage have been drawn, all of it is as it should be. -/
theorem Painted.paintStage (h : c.Painted s) :
    (c.paintStage false).1.Painted (s.run (c.paintStage false).2) := by
  obtain ⟨f, hf, hbounds, hcells⟩ := c.draws_paintStage false
  refine ⟨hf.pen s h.pen, c.hasSize_picture, fun x y cell hsome => ?_, fun x => ?_⟩
  · rw [hf.glyphs s h.pen]
    rcases hcells x y cell hsome with hdrawn | ⟨hnone, -, hold⟩
    · rw [hdrawn]
      rfl
    · rw [hnone]
      rcases hold with hno | hsame
      · -- both grids have a cell here
        have hin := c.hasSize_picture.of_cell? hsome
        have hcell := (h.shape.isSome_cell? x y).2 hin
        rw [hno] at hcell
        simp at hcell
      · exact h.stage x y cell hsame
  · rw [hf.glyphs s h.pen]
    show (f x (c.canvas.rows + menuRows)).getD _ = _
    cases hplace : f x (c.canvas.rows + menuRows) with
    | none => exact h.status x
    | some glyph =>
      obtain ⟨-, row, hrow, heq⟩ := hbounds x (c.canvas.rows + menuRows) (by rw [hplace]; simp)
      omega

/-- After the status has been drawn, if it has changed, it is as it should be. -/
theorem Painted.paintStatus (h : c.Painted s) :
    (c.paintStatus false).1.Painted (s.run (c.paintStatus false).2) := by
  unfold Console.paintStatus
  dsimp only
  split
  · exact h
  · have hdraws := draws_status (statusText c.studio) (c.canvas.rows + menuRows)
    refine ⟨hdraws.pen s h.pen, h.shape, fun x y cell hsome => ?_, fun x => ?_⟩
    · have hin := h.shape.of_cell? hsome
      rw [hdraws.glyphs s h.pen, if_neg (by omega)]
      exact h.stage x y cell hsome
    · rw [hdraws.glyphs s h.pen, if_pos rfl]
      rfl

/-- Drawing what has changed on the stage does not touch the panel. -/
theorem ShowsPanel.paintStage {studio : Studio} (h : c.ShowsPanel studio s) (hpen : s.pen = {})
    (full : Bool) : (c.paintStage full).1.ShowsPanel studio (s.run (c.paintStage full).2) := by
  obtain ⟨f, hf, hbounds, -⟩ := c.draws_paintStage full
  intro x y hy
  rw [hf.glyphs s hpen]
  show (f (c.canvas.columns + x) (y + menuRows)).getD _ = _
  cases hplace : f (c.canvas.columns + x) (y + menuRows) with
  | none => exact h x y hy
  | some glyph =>
    obtain ⟨hx, -⟩ := hbounds (c.canvas.columns + x) (y + menuRows) (by rw [hplace]; simp)
    omega

/-- Drawing the status does not touch the panel. -/
theorem ShowsPanel.paintStatus {studio : Studio} (h : c.ShowsPanel studio s) (hpen : s.pen = {})
    (force : Bool) : (c.paintStatus force).1.ShowsPanel studio (s.run (c.paintStatus force).2) := by
  unfold Console.paintStatus
  dsimp only
  split
  · exact h
  · intro x y hy
    have hrow : ¬ y + menuRows = c.canvas.rows + menuRows := by
      have hlt : y < c.canvas.rows := hy
      omega
    rw [(draws_status _ _).glyphs s hpen, if_neg hrow]
    exact h x y hy

/-- Drawing the changes does not touch the studio, which time has moved on. -/
theorem studio_pass (c : Console) (dt : Duration) :
    (c.pass dt).1.studio = c.studio.advance dt := by
  unfold pass paintStatus
  dsimp only
  split <;> rfl

theorem canvas_pass (c : Console) (dt : Duration) : (c.pass dt).1.canvas = c.canvas := by
  unfold pass paintStatus
  dsimp only
  split <;> rfl

/-- After the changes have been drawn, the console knows what is on the screen. -/
theorem Painted.pass (h : c.Painted s) (dt : Duration) :
    (c.pass dt).1.Painted (s.run (c.pass dt).2) := by
  have hadvanced : Painted { c with studio := c.studio.advance dt } s :=
    ⟨h.pen, h.shape, h.stage, h.status⟩
  show Painted _ (s.run (_ ++ _))
  rw [Sheet.run_append]
  exact hadvanced.paintStage.paintStatus

/-- While time passes the panel on the screen stays as it is. -/
theorem ShowsPanel.pass {studio : Studio} (h : c.ShowsPanel studio s) (hpen : s.pen = {})
    (dt : Duration) : (c.pass dt).1.ShowsPanel studio (s.run (c.pass dt).2) := by
  have hadvanced : ShowsPanel { c with studio := c.studio.advance dt } studio s := h
  obtain ⟨f, hf, -⟩ := draws_paintStage { c with studio := c.studio.advance dt } false
  show ShowsPanel _ studio (s.run (_ ++ _))
  rw [Sheet.run_append]
  exact (hadvanced.paintStage hpen false).paintStatus (hf.pen s hpen) false

/-- After everything has been drawn, the console knows what is on the screen. -/
theorem painted_redraw (c : Console) (size : ScreenSize) (hpen : s.pen = {}) :
    (c.redraw size).1.Painted (s.run (c.redraw size).2) := by
  obtain ⟨f, hf, hstage, hstatus, -⟩ := (c.measured size).draws_all
  rw [redraw_eq]
  refine ⟨hf.pen s hpen, (c.measured size).hasSize_picture, fun x y cell hsome => ?_, fun x => ?_⟩
  · rw [hf.glyphs s hpen, hstage x y cell hsome]
    rfl
  · rw [hf.glyphs s hpen, hstatus x]
    rfl

/-- After everything has been drawn, the panel is that of the studio at hand. -/
theorem showsPanel_redraw (c : Console) (size : ScreenSize) (hpen : s.pen = {}) :
    (c.redraw size).1.ShowsPanel (c.measured size).studio (s.run (c.redraw size).2) := by
  obtain ⟨f, hf, -, -, hpanel⟩ := (c.measured size).draws_all
  rw [redraw_eq]
  intro x y hy
  rw [hf.glyphs s hpen, hpanel x y hy]
  rfl

/-! ## Turns -/

/-- The studio after what comes in, if anything does. -/
def heard (c : Console) (m : Moment) : Option Event → Studio
  | some e => (c.studio.handle m e).1
  | none => c.studio

/-- Everything is drawn after what comes in. -/
def drawsAll (c : Console) (m : Moment) : Option Event → Bool
  | some e => (c.studio.handle m e).2 = .redraw ∨ (c.studio.handle m e).2 = .toggleFullscreen
  | none => false

/-- An event that leaves nothing to do has changed nothing. -/
theorem handle_of_nothing (studio : Studio) (m : Moment) (e : Event)
    (h : (studio.handle m e).2 = .nothing) : (studio.handle m e).1 = studio := by
  unfold Studio.handle at h ⊢
  cases e with
  | resize => simp at h
  | other => rfl
  | key press motion =>
    cases motion with
    | again => rfl
    | release => rfl
    | press =>
      dsimp only at h ⊢
      split
      · rfl
      · rfl
      · rename_i change haction
        simp [haction] at h
      · rfl

/-- **What a turn draws.** The changes that time has brought, where nothing else has changed.
Otherwise everything, and then these changes. -/
theorem step_cases {c' : Console} {size : ScreenSize} {m : Moment} {event : Option Event}
    {dt : Duration} {commands : List Command} (h : c.step size m event dt = .next c' commands) :
    (c.drawsAll m event = false ∧ event ≠ some .resize ∧ c.heard m event = c.studio ∧
        c' = (c.pass dt).1 ∧ commands = (c.pass dt).2) ∨
      c.drawsAll m event = true ∧
      ∃ before drawn, (before = [] ∨ ∃ on, before = [.fullscreen on]) ∧
        (∃ on, drawn = redraw { c with studio := c.heard m event, fullscreen := on } size) ∧
        c' = (drawn.1.pass dt).1 ∧ commands = before ++ (drawn.2 ++ (drawn.1.pass dt).2) := by
  cases event with
  | none =>
    obtain ⟨rfl, rfl⟩ := Turn.next.inj h
    exact Or.inl ⟨rfl, by simp, rfl, rfl, rfl⟩
  | some e =>
    have hheard : c.heard m (some e) = (c.studio.handle m e).1 := rfl
    have hnothing := handle_of_nothing c.studio m e
    unfold step at h
    dsimp only at h
    cases hreaction : (c.studio.handle m e).2 with
    | quit =>
      rw [hreaction] at h
      simp at h
    | nothing =>
      rw [hreaction, hnothing hreaction] at h
      obtain ⟨rfl, rfl⟩ := Turn.next.inj h
      refine Or.inl ⟨by simp [drawsAll, hreaction], ?_, hnothing hreaction, rfl, rfl⟩
      rintro ⟨⟩
      simp [Studio.handle] at hreaction
    | redraw =>
      rw [hreaction] at h
      obtain ⟨rfl, rfl⟩ := Turn.next.inj h
      exact Or.inr ⟨by simp [drawsAll, hreaction], [], _, Or.inl rfl, ⟨c.fullscreen, rfl⟩, rfl, rfl⟩
    | toggleFullscreen =>
      rw [hreaction] at h
      obtain ⟨rfl, rfl⟩ := Turn.next.inj h
      exact Or.inr ⟨by simp [drawsAll, hreaction], [.fullscreen _], _, Or.inr ⟨_, rfl⟩,
        ⟨!c.fullscreen, rfl⟩, rfl, rfl⟩

/-- Switching to the full screen draws nothing. -/
theorem run_before {before rest : List Command}
    (h : before = [] ∨ ∃ on, before = [.fullscreen on]) : s.run (before ++ rest) = s.run rest := by
  rcases h with rfl | ⟨on, rfl⟩
  · rfl
  · rfl

/-- **A turn leaves the screen as it should be**, whatever was on it before a resize. -/
theorem painted_step {c' : Console} {size : ScreenSize} {m : Moment} {event : Option Event}
    {dt : Duration} {commands : List Command} (hstep : c.step size m event dt = .next c' commands)
    (hpen : s.pen = {}) (h : event ≠ some .resize → c.Painted s) :
    c'.Painted (s.run commands) := by
  rcases step_cases hstep with
    ⟨-, hevent, -, rfl, rfl⟩ | ⟨-, before, drawn, hbefore, ⟨on, rfl⟩, rfl, rfl⟩
  · exact (h hevent).pass dt
  · rw [run_before hbefore, Sheet.run_append]
    exact (painted_redraw _ size hpen).pass dt

end SpriteStage.Console
