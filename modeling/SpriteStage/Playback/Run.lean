import SpriteStage.Playback.Basic

/-!
# A playback and its program

A `Run` is a playback together with the program that it plays. `Run.advance` moves the clock on and
lets every timer fire on the way. On a tick the scripts run, and then the first pair of sprites that
have come close swap their scripts, once a session.

Timers that fire may queue others. `Run.drain` ends all the same: a timer that fires leaves less to
fire, but for a tick that swaps, and that locks further swaps out.
-/

namespace SpriteStage

/-- A playback and the program that it plays. -/
structure Run where
  playback : Playback
  program : Program

namespace Run

/-- Looks at the program. -/
def sync (r : Run) : Run := { r with playback := r.playback.sync r.program.sprites }

/-- Begins a session, unless one is on. -/
def play (r : Run) : Run :=
  if r.playback.isRunning then r else { r with playback := (r.sync).playback.start }

/-- Ends the session, if one is on. -/
def stop (r : Run) : Run := { r with playback := r.playback.stop }

/-- Begins or ends a session. -/
def setPlaying (r : Run) (on : Bool) : Run := if on then r.play else r.stop

/-! ## Ticks -/

/-- The cast after the scripts of the sprites have run, each in its turn. -/
def actAll (v : Viewport) (sprites : List Sprite) (c : Cast) : Cast :=
  sprites.foldl (fun c s => c.modify s.id (Actor.act v s.script)) c

/-- Swaps the scripts of two sprites of a session, with all that follows from it. -/
def swap (r : Run) (session : Token) (a b : SpriteId) : Run :=
  let p := r.playback
  let notice : SwapNotice := ⟨r.program.nameOf a, r.program.nameOf b, p.clock.asMillis⟩
  let program := r.program.swapScripts a b
  let p := { p with
    swapLocked := true
    highlighted := some (a, b)
    lastSwap := some notice
    queue := p.queue.schedule (p.clock + p.settings.highlight) session .clearHighlight }
  ⟨p.sync program.sprites, program⟩

/-- One tick of a session. -/
def tick (r : Run) (session : Token) : Run :=
  let p := r.playback
  let cast := actAll p.viewport r.program.sprites p.cast
  let r : Run := { r with playback := { p with ticks := p.ticks + 1, cast := cast } }
  if p.swapLocked then r
  else
    match firstClosePair? cast.positions p.settings.swapDistance with
    | some (a, b) => r.swap session a b
    | none => r

/-! ## Time -/

/-- Carries out what a timer brings about, at its time. Timers that belong to neither the session
nor the schedule do nothing. -/
def fire (r : Run) (fired : Fired TimedEvent) : Run :=
  let p := { r.playback with clock := fired.time }
  let r := { r with playback := p }
  match p.mode with
  | .stopped => r
  | .running session schedule =>
    match fired.event with
    | .tick => if fired.owner = session then r.tick session else r
    | .clearHighlight =>
      if fired.owner = session then { r with playback := { p with highlighted := none } } else r
    | .bubble sprite bubble =>
      if fired.owner = schedule then
        { r with playback := { p with cast := p.cast.setBubble sprite bubble } }
      else r

/-- A look at the program neither opens the lock nor closes it. -/
theorem swapLocked_sync (p : Playback) (sprites : List Sprite) :
    (p.sync sprites).swapLocked = p.swapLocked := by
  unfold Playback.sync Playback.notice Playback.scheduleBubbles
  split
  · rfl
  · dsimp only
    split <;> rfl

/-- A swap locks further swaps out. -/
theorem swapLocked_swap (r : Run) (session : Token) (a b : SpriteId) :
    (r.swap session a b).playback.swapLocked = true := by
  unfold swap
  simp only [swapLocked_sync]

/-- A tick swaps, and then the lock closes, or leaves the lock and the timers as they are. -/
theorem tick_lock_or_queue (r : Run) (session : Token) :
    r.playback.swapLocked = false ∧ (r.tick session).playback.swapLocked = true ∨
      (r.tick session).playback.swapLocked = r.playback.swapLocked ∧
        (r.tick session).playback.queue = r.playback.queue := by
  unfold tick
  dsimp only
  split
  · exact Or.inr ⟨rfl, rfl⟩
  · rename_i hopen
    split
    · exact Or.inl ⟨by simpa using hopen, swapLocked_swap ..⟩
    · exact Or.inr ⟨rfl, rfl⟩

/-- A timer that fires swaps, and then the lock closes, or leaves the lock and the timers as they
are. -/
theorem fire_lock_or_queue (r : Run) (fired : Fired TimedEvent) :
    r.playback.swapLocked = false ∧ (r.fire fired).playback.swapLocked = true ∨
      (r.fire fired).playback.swapLocked = r.playback.swapLocked ∧
        (r.fire fired).playback.queue = r.playback.queue := by
  unfold fire
  dsimp only
  split
  · exact Or.inr ⟨rfl, rfl⟩
  · split
    · split
      · exact tick_lock_or_queue { r with playback := { r.playback with clock := fired.time } } _
      · exact Or.inr ⟨rfl, rfl⟩
    · split <;> exact Or.inr ⟨rfl, rfl⟩
    · split <;> exact Or.inr ⟨rfl, rfl⟩

/-- The swaps that a session may still have. -/
def swapsLeft (p : Playback) : Nat := if p.swapLocked then 0 else 1

/-- The swaps that may still happen and the firings that may still come by a time. -/
def remaining (target : Duration) (r : Run) : Nat × Nat :=
  (swapsLeft r.playback, r.playback.queue.workUntil target)

/-- A timer that fires leaves fewer swaps, or as many swaps and less to fire. -/
theorem remaining_fire {target : Duration} {r : Run} {fired : Fired TimedEvent}
    {left : Queue TimedEvent} (h : r.playback.queue.popDue? target = some (fired, left)) :
    Prod.Lex (· < ·) (· < ·)
      (remaining target (fire { r with playback := { r.playback with queue := left } } fired))
      (remaining target r) := by
  have hwork := Queue.workUntil_popDue? h
  rcases fire_lock_or_queue { r with playback := { r.playback with queue := left } } fired with
    ⟨hopen, hlocked⟩ | ⟨hlock, hqueue⟩
  · apply Prod.Lex.left
    simp only [swapsLeft, hlocked]
    simp only at hopen
    simp [hopen]
  · rw [remaining, remaining, Prod.lex_def]
    refine Or.inr ⟨?_, ?_⟩
    · simp only [swapsLeft, hlock]
    · rw [hqueue]; exact hwork

/-- Lets every timer fire that is due by `target`, in order. -/
def drain (target : Duration) (r : Run) : Run :=
  match _h : r.playback.queue.popDue? target with
  | none => r
  | some (fired, left) =>
    drain target (fire { r with playback := { r.playback with queue := left } } fired)
  termination_by remaining target r
  decreasing_by exact remaining_fire _h

/-- Moves the clock on, after a look at the program. -/
def advance (r : Run) (dt : Duration) : Run :=
  let target := r.playback.clock + dt
  let r := drain target r.sync
  { r with playback := { r.playback with clock := target } }

end Run

end SpriteStage
