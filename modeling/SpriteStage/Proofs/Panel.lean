import SpriteStage.Proofs.Screen
import SpriteStage.Proofs.Swaps

/-!
# How far the panel can be behind

The panel is drawn when everything is drawn, and a turn draws everything whenever an event has
changed the studio. What time changes is drawn on the stage and in the status only. So since
everything was drawn last only time has passed, and the panel on the screen is that of the studio,
but for a swap of two scripts that has come since then (`panel_after_turns`).
-/

namespace SpriteStage

open Terminal

/-! ## What time does to the program -/

namespace Run

/-- Time does not open the lock again. -/
theorem swapLocked_advances {r : Run} (h : r.playback.swapLocked = true) (dts : List Duration) :
    (dts.foldl Run.advance r).playback.swapLocked = true := by
  induction dts generalizing r with
  | nil => exact h
  | cons dt rest ih => exact ih ((plays_advance r dt).locked.2 (Or.inl h))

/-- Portions of time leave the program as it is, or the lock is closed and two sprites swap their
scripts. After a swap there is no other. -/
theorem program_advances_cases (r : Run) (dts : List Duration) :
    (dts.foldl Run.advance r).program = r.program ∨
      r.playback.swapLocked = false ∧ (dts.foldl Run.advance r).playback.swapLocked = true ∧
        ∃ a b, (dts.foldl Run.advance r).program = r.program.swapScripts a b := by
  induction dts generalizing r with
  | nil => exact Or.inl rfl
  | cons dt rest ih =>
    rw [List.foldl_cons]
    rcases program_advance_cases r dt with hsame | ⟨hopen, hlocked, a, b, hswap⟩
    · rcases ih (r.advance dt) with hsame' | ⟨hopen', hlocked', a, b, hswap'⟩
      · exact Or.inl (hsame'.trans hsame)
      · -- the lock was open before this portion too
        have hopen : r.playback.swapLocked = false := by
          rw [← Bool.not_eq_true]
          intro hlocked
          rw [(plays_advance r dt).locked.2 (Or.inl hlocked)] at hopen'
          cases hopen'
        rw [hsame] at hswap'
        exact Or.inr ⟨hopen, hlocked', a, b, hswap'⟩
    · rcases ih (r.advance dt) with hsame' | ⟨hopen', -⟩
      · exact Or.inr ⟨hopen, swapLocked_advances hlocked rest, a, b, hsame'.trans hswap⟩
      · rw [hlocked] at hopen'
        cases hopen'

end Run

/-- The studio on another program. -/
def Studio.on (s : Studio) (program : Program) : Studio :=
  { s with run := { s.run with program := program } }

/-- As time passes, all of a studio but its run stays as it is. -/
theorem Studio.advances_eq (s : Studio) (dts : List Duration) :
    dts.foldl Studio.advance s = { s with run := dts.foldl Run.advance s.run } := by
  induction dts generalizing s with
  | nil => rfl
  | cons dt rest ih => exact ih (s.advance dt)

namespace Console

/-! ## Since everything was drawn -/

/-- The studio of which everything was drawn last: the one at hand if everything is drawn after what
comes in, and otherwise the one that it was before. -/
def lastDrawn (c : Console) (drawn : Studio) (size : ScreenSize) (m : Moment)
    (event : Option Event) : Studio :=
  if c.drawsAll m event then (redraw { c with studio := c.heard m event } size).1.studio else drawn

/-- What a console is after its turns, and all that it has sent, with the studio of which everything
was drawn last. The terminal may have another size whenever everything is drawn. -/
inductive Looped (studio : Studio) : Studio → Console → List Command → Prop
  | start (size : ScreenSize) :
      Looped studio ((Console.start studio).redraw size).1.studio
        ((Console.start studio).redraw size).1 ((Console.start studio).redraw size).2
  | turn {drawn : Studio} {c c' : Console} {sent commands : List Command}
      (h : Looped studio drawn c sent) (size : ScreenSize) (m : Moment) (event : Option Event)
      (dt : Duration) (hstep : c.step size m event dt = .next c' commands) :
      Looped studio (c.lastDrawn drawn size m event) c' (sent ++ commands)

/-- Everything was drawn of a studio, and then only time has passed: the panel on the screen is
still the one of then. -/
structure Since (drawn : Studio) (c : Console) (s : Sheet) : Prop where
  painted : c.Painted s
  panel : c.ShowsPanel drawn s
  time : ∃ dts : List Duration, c.studio = dts.foldl Studio.advance drawn

/-- Everything has just been drawn. -/
theorem since_redraw (c : Console) (size : ScreenSize) {s : Sheet} (hpen : s.pen = {}) :
    Since (c.redraw size).1.studio (c.redraw size).1 (s.run (c.redraw size).2) :=
  ⟨painted_redraw c size hpen, showsPanel_redraw c size hpen, [], rfl⟩

/-- More time passes. -/
theorem Since.pass {drawn : Studio} {c : Console} {s : Sheet} (h : Since drawn c s)
    (dt : Duration) : Since drawn (c.pass dt).1 (s.run (c.pass dt).2) := by
  obtain ⟨dts, htime⟩ := h.time
  refine ⟨h.painted.pass dt, h.panel.pass h.painted.pen dt, dts ++ [dt], ?_⟩
  rw [studio_pass, List.foldl_append, ← htime]
  rfl

/-- **From turn to turn** everything is drawn anew, or only time has passed once more. -/
theorem Since.step {drawn : Studio} {c c' : Console} {s : Sheet} {size : ScreenSize} {m : Moment}
    {event : Option Event} {dt : Duration} {commands : List Command} (h : Since drawn c s)
    (hstep : c.step size m event dt = .next c' commands) :
    Since (c.lastDrawn drawn size m event) c' (s.run commands) := by
  unfold lastDrawn
  rcases step_cases hstep with
    ⟨hall, -, -, rfl, rfl⟩ | ⟨hall, before, redrawn, hbefore, ⟨on, rfl⟩, rfl, rfl⟩
  · rw [hall]
    exact h.pass dt
  · rw [hall, run_before hbefore, Sheet.run_append]
    exact (since_redraw { c with studio := c.heard m event, fullscreen := on } size
      h.painted.pen).pass dt

/-- After any turns, since everything was drawn last only time has passed. -/
theorem since_of_looped {studio drawn : Studio} {c : Console} {sent : List Command}
    (h : Looped studio drawn c sent) : Since drawn c (Sheet.blank.run sent) := by
  induction h with
  | start size => exact since_redraw _ size rfl
  | turn _ size m event dt hstep ih =>
    rw [Sheet.run_append]
    exact ih.step hstep

/-- **How far the panel can be behind.** After any turns, whatever comes in, however much time
passes and whatever the sizes of the terminal, only time has passed since everything was drawn last.
The panel on the screen is that of the studio as it is, but on the program of then. This is the
program still, or the lock was open then and is closed now, and two sprites have swapped their
scripts. -/
theorem panel_after_turns {studio drawn : Studio} {c : Console} {sent : List Command}
    (h : Looped studio drawn c sent) :
    (∃ dts : List Duration, c.studio = dts.foldl Studio.advance drawn) ∧
      (c.studio.run.program = drawn.run.program ∨
        drawn.run.playback.swapLocked = false ∧ c.studio.run.playback.swapLocked = true ∧
          ∃ a b, c.studio.run.program = drawn.run.program.swapScripts a b) ∧
      ∀ x y, y < c.canvas.rows →
        (Sheet.blank.run sent).glyphs (c.canvas.columns + x) (y + menuRows) =
          panelGlyph (c.studio.on drawn.run.program) x y := by
  have hsince := since_of_looped h
  obtain ⟨dts, htime⟩ := hsince.time
  have hstudio : c.studio = { drawn with run := dts.foldl Run.advance drawn.run } :=
    htime.trans (drawn.advances_eq dts)
  refine ⟨⟨dts, htime⟩, ?_, ?_⟩
  · rw [hstudio]
    exact drawn.run.program_advances_cases dts
  · intro x y hy
    rw [hsince.panel x y hy, hstudio]
    rfl

/-- Nobody plays the program, and half a second passes. -/
theorem panel_after_turns_encounter :
    let first := (Console.start (.enter .encounter {} 7)).redraw ⟨120, 12⟩
    let next := first.1.pass (.ofMillis 500)
    Looped (.enter .encounter {} 7) first.1.studio next.1 (first.2 ++ next.2) ∧
      (∃ dts : List Duration, next.1.studio = dts.foldl Studio.advance first.1.studio) ∧
      (next.1.studio.run.program = first.1.studio.run.program ∨
        first.1.studio.run.playback.swapLocked = false ∧
          next.1.studio.run.playback.swapLocked = true ∧
          ∃ a b, next.1.studio.run.program = first.1.studio.run.program.swapScripts a b) ∧
      ∀ x y, y < next.1.canvas.rows →
        (Sheet.blank.run (first.2 ++ next.2)).glyphs (next.1.canvas.columns + x) (y + menuRows) =
          panelGlyph (next.1.studio.on first.1.studio.run.program) x y := by
  intro first next
  have hstep : first.1.step ⟨120, 12⟩ ⟨0, 0⟩ none (.ofMillis 500) = .next next.1 next.2 := rfl
  have hlooped : Looped (.enter .encounter {} 7) first.1.studio next.1 (first.2 ++ next.2) :=
    (Looped.start ⟨120, 12⟩).turn _ _ _ _ hstep
  exact ⟨hlooped, panel_after_turns hlooped⟩

/-- The space key plays. -/
theorem action_space :
    ({} : KeyBindings).action? ⟨.char ' ', false, false⟩ =
      some (.edit fun s _ => s.togglePlay) := by
  have hfullscreen : Binding.names "F11" ⟨.char ' ', false, false⟩ = false := by decide +kernel
  have hquit : Binding.names "q" ⟨.char ' ', false, false⟩ = false := by decide +kernel
  have hplay : Binding.names "Space" ⟨.char ' ', false, false⟩ = true := by decide +kernel
  unfold KeyBindings.action? KeyBindings.actions
  simp only [List.find?_cons, hfullscreen, hquit, hplay]
  rfl

/-- In the turn in which a program is played two sprites meet. Afterwards the panel still shows the
second block of a script that the selected sprite has no more. -/
theorem panel_stale_encounter :
    let first := (Console.start (.enter .encounter {} 7)).redraw ⟨120, 12⟩
    ∃ drawn c commands,
      first.1.step ⟨120, 12⟩ ⟨0, 0⟩ (some (.key ⟨.char ' ', false, false⟩ .press)) (.ofMillis 500) =
        .next c commands ∧
      Looped (.enter .encounter {} 7) drawn c (first.2 ++ commands) ∧ 6 < c.canvas.rows ∧
      (Sheet.blank.run (first.2 ++ commands)).glyphs (c.canvas.columns + 3) (6 + menuRows) ≠
        panelGlyph c.studio 3 6 := by
  intro first
  let played : Console := { first.1 with studio := first.1.studio.togglePlay }
  let drawn := played.redraw ⟨120, 12⟩
  have hstep : first.1.step ⟨120, 12⟩ ⟨0, 0⟩ (some (.key ⟨.char ' ', false, false⟩ .press))
      (.ofMillis 500) =
        .next (drawn.1.pass (.ofMillis 500)).1
          (drawn.2 ++ (drawn.1.pass (.ofMillis 500)).2) := by
    have hhandle : first.1.studio.handle ⟨0, 0⟩ (.key ⟨.char ' ', false, false⟩ .press) =
        (first.1.studio.togglePlay, .redraw) := by
      unfold Studio.handle
      dsimp only
      rw [show first.1.studio.settings.keys = {} from rfl, action_space]
    unfold step
    dsimp only
    rw [hhandle]
  refine ⟨_, _, _, hstep, (Looped.start ⟨120, 12⟩).turn _ _ _ _ hstep, ?_, ?_⟩
  · rw [canvas_pass]
    decide
  · -- what the panel shows
    have hpen := (painted_redraw (Console.start (.enter .encounter {} 7)) ⟨120, 12⟩
      (s := .blank) rfl).pen
    have hdrawn := showsPanel_redraw played ⟨120, 12⟩ hpen
    have hshown := hdrawn.pass (painted_redraw played ⟨120, 12⟩ hpen).pen (.ofMillis 500) 3 6
      (by rw [canvas_pass]; decide)
    have hold : panelGlyph (played.measured ⟨120, 12⟩).studio 3 6 = ⟨'r', {}⟩ := by decide +kernel
    -- what it would have to show
    have hswap : (drawn.1.studio.run.advance (.ofMillis 500)).program =
        Program.encounter.swapScripts ⟨1⟩ ⟨2⟩ := by
      rw [Run.program_advance_of_swap (a := ⟨1⟩) (b := ⟨2⟩) 2 (by decide +kernel)]
      rfl
    have hnew : panelGlyph (drawn.1.pass (.ofMillis 500)).1.studio 3 6 = .blank := by
      rw [studio_pass]
      show panelGlyph
        (drawn.1.studio.on (drawn.1.studio.run.advance (.ofMillis 500)).program) 3 6 = _
      rw [hswap]
      decide +kernel
    rw [Sheet.run_append, Sheet.run_append, hshown, hold, hnew]
    decide

end Console

end SpriteStage
