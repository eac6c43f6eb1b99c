import SpriteStage.Proofs.Sessions
import SpriteStage.Proofs.Steps

/-!
# The ticks of a session

From the moment a session begins, as long as only time passes, a run has been through some number of
pure steps (`Ticking`): its next tick is pending at the time of the step after those, and whatever
else fires leaves the state of the ticks alone. How the time is cut into portions does not matter:
when it has passed, the number of steps is the number of whole intervals in it
(`advances_refine_steps`).
-/

namespace SpriteStage

/-! ## The times of ticks -/

theorem PlaybackSettings.tickTime_zero (s : PlaybackSettings) (start : Duration) :
    s.tickTime start 0 = start := by
  have hstart := start.inRange
  apply Duration.eq_of_nanos
  unfold tickTime
  rw [Duration.nanos_ofNanos]
  omega

/-- From one tick to the next it is one interval, as long as time has not ended. -/
theorem PlaybackSettings.tickTime_succ (s : PlaybackSettings) (start : Duration) (n : ℕ) :
    s.tickTime start n + s.tickInterval = s.tickTime start (n + 1) := by
  apply Duration.eq_of_nanos
  unfold tickTime
  rw [Duration.nanos_add, Duration.nanos_ofNanos, Duration.nanos_ofNanos, Nat.succ_mul]
  omega

/-- Before time ends a tick's time is counted exactly. -/
theorem PlaybackSettings.nanos_tickTime {s : PlaybackSettings} {start : Duration} {n : ℕ}
    (h : s.tickTime start n < .longest) :
    (s.tickTime start n).nanos = start.nanos + n * s.tickInterval.nanos := by
  unfold tickTime at h ⊢
  rw [Duration.lt_iff, Duration.nanos_ofNanos, Duration.nanos_longest] at h
  rw [Duration.nanos_ofNanos]
  omega

namespace Playback

/-! ## What is pending of the ticks -/

/-- A look at the program queues no ticks. -/
theorem mem_timers_of_sync {p : Playback} {sprites : List Sprite} {t : Timer TimedEvent}
    (hevent : t.event = .tick) : t ∈ (p.sync sprites).queue.timers → t ∈ p.queue.timers := by
  apply sync_cases (P := fun q => t ∈ q.queue.timers → t ∈ p.queue.timers)
  · intro _ ht
    exact ht
  · intro _ ht
    exact ht
  · intro session schedule _ ht
    rw [queue_scheduleBubbles, mem_queueCues] at ht
    rcases ht with ht | ⟨cue, -, rfl⟩
    · exact mem_of_mem_unscheduled ht
    · simp [cueTimer] at hevent

/-- A tick queues no other one. -/
theorem mem_timers_of_tick {r : Run} {session : Token} {t : Timer TimedEvent}
    (hevent : t.event = .tick) :
    t ∈ (r.tick session).playback.queue.timers → t ∈ r.playback.queue.timers := by
  apply Run.tick_cases
    (P := fun m => t ∈ m.playback.queue.timers → t ∈ r.playback.queue.timers)
  · intro ht
    exact ht
  · intro a b ht
    rcases Queue.mem_schedule.1 (mem_timers_of_sync hevent ht) with rfl | ht
    · simp at hevent
    · exact ht

end Playback

namespace Run

/-! ## A session that ticks -/

/-- The state that the ticks of a session set out from: no script has run yet, and the lock is
open. -/
def opening (r : Run) : TickState where
  program := r.program
  bodies := fun id => (r.sync.playback.cast.get? id).map fun a => { a.body with hasRun := false }
  locked := false
  lastSwap := r.playback.lastSwap

/-- The time of a tick of the session that begins now. -/
def tickTime (r : Run) (n : ℕ) : Duration :=
  r.playback.settings.tickTime r.playback.clock n

/-- The state after so many ticks of the session that begins now. -/
def ticked (r : Run) (n : ℕ) : TickState :=
  TickState.ticked r.playback.settings r.playback.viewport r.playback.clock r.opening n

/-- The run `m` is in the session that began with `r` and has had `n` ticks. -/
structure Ticking (r : Run) (n : ℕ) (m : Run) : Prop where
  staged : Staged m
  serving : ∃ session schedule, m.playback.Serving session schedule
  settings : m.playback.settings = r.playback.settings
  viewport : m.playback.viewport = r.playback.viewport
  ticks : m.playback.ticks = r.playback.ticks + .ofNat n
  state : m.tickState = r.ticked n
  reached : r.playback.clock.nanos + n * r.playback.settings.tickInterval.nanos ≤
    m.playback.clock.nanos
  due : ∀ t ∈ m.playback.queue.timers, t.event = .tick → t.due = r.tickTime (n + 1)

variable {r m : Run} {n : ℕ}

theorem Ticking.orderly (h : Ticking r n m) : m.playback.Orderly := Or.inr h.serving

theorem Ticking.isRunning (h : Ticking r n m) : m.playback.isRunning = true := by
  obtain ⟨session, schedule, hserving⟩ := h.serving
  exact Playback.isRunning_eq_true_iff.2 ⟨session, schedule, hserving.mode⟩

/-- A session begins without ticks. -/
theorem ticking_play (h : Reachable r) (hstopped : r.playback.isRunning = false)
    (hids : (r.program.sprites.map (·.id)).Nodup) : Ticking r 0 r.play := by
  have hplay : r.play = { r with playback := r.sync.playback.start } := by
    unfold play
    rw [hstopped]
    rfl
  have hmode := mode_sync_of_stopped (Playback.isRunning_eq_false_iff.1 hstopped)
  have hrest : r.sync.playback.AtRest :=
    (invariant_orderly.sync (invariant_orderly.reachable h)).atRest_of_mode hmode
  have hstaged : Staged r.sync := staged_sync (invariant_follows.reachable h) hids
  have halike := Playback.alike_sync r.playback r.program.sprites
  rw [hplay]
  constructor
  · exact ⟨hids, hstaged.follows.start, hstaged.seen⟩
  · exact ⟨_, _, hrest.start⟩
  · exact halike.settings
  · exact halike.viewport
  · exact halike.ticks.trans (UInt64.add_zero _).symm
  · refine TickState.ext rfl ?_ rfl halike.lastSwap
    funext id
    show ((r.sync.playback.cast.resetRuns.clearBubbles).get? id).map Actor.body = _
    rw [Cast.get?_clearBubbles, Cast.get?_resetRuns, Option.map_map, Option.map_map]
    rfl
  · show _ ≤ r.sync.playback.clock.nanos
    rw [clock_sync]
    omega
  · intro t ht hevent
    -- the only timers are the first tick and the cues of bubbles
    rw [Playback.start, Playback.queue_scheduleBubbles, Playback.mem_queueCues] at ht
    rcases ht with ht | ⟨cue, -, rfl⟩
    · simp only [Playback.unscheduled, hmode, Queue.timers_scheduleRepeating, hrest.timers,
        insertTimer, List.mem_singleton] at ht
      have hdue : r.playback.clock + r.playback.settings.tickInterval = r.tickTime 1 := by
        unfold tickTime
        rw [← PlaybackSettings.tickTime_succ, PlaybackSettings.tickTime_zero]
      rw [ht, ← hdue]
      show r.sync.playback.clock + r.sync.playback.settings.tickInterval = _
      rw [clock_sync, show r.sync.playback.settings = r.playback.settings from halike.settings]
    · simp [Playback.cueTimer] at hevent

/-- A look at the program is no tick. -/
theorem Ticking.sync (h : Ticking r n m) : Ticking r n m.sync := by
  have halike := Playback.alike_sync m.playback m.program.sprites
  have hrunning : m.sync.playback.isRunning = true :=
    (isRunning_playback_sync _ _).trans h.isRunning
  constructor
  · exact staged_sync h.staged.follows h.staged.unique
  · exact (h.orderly.sync _).serving_of_isRunning hrunning
  · exact halike.settings.trans h.settings
  · exact halike.viewport.trans h.viewport
  · exact halike.ticks.trans h.ticks
  · rw [h.staged.tickState_sync]
    exact h.state
  · rw [clock_sync]
    exact h.reached
  · intro t ht hevent
    exact h.due t (Playback.mem_timers_of_sync hevent ht) hevent

/-! ## Firings -/

variable {target : Duration} {fired : Fired TimedEvent} {left : Queue TimedEvent}

/-- When no timer is due any more, the clock may move on. -/
theorem Ticking.arrive (h : Ticking r n m) (hclock : m.playback.clock ≤ target)
    (hpop : m.playback.queue.popDue? target = none) :
    Ticking r n { m with playback := { m.playback with clock := target } } := by
  constructor
  · exact ⟨h.staged.unique, h.staged.follows, h.staged.seen⟩
  · exact (h.orderly.arrive hclock hpop).serving_of_isRunning h.isRunning
  · exact h.settings
  · exact h.viewport
  · exact h.ticks
  · exact h.state
  · exact le_trans h.reached hclock
  · exact h.due

/-- The run after a timer that is no tick has been taken out. -/
theorem Ticking.taken (h : Ticking r n m)
    (hpop : m.playback.queue.popDue? target = some (fired, left)) (hevent : fired.event ≠ .tick) :
    Ticking r n (m.taken fired left) := by
  obtain ⟨session, schedule, hserving⟩ := h.serving
  have htimers := hserving.timers_of_popDue? hpop hevent
  constructor
  · exact ⟨h.staged.unique, h.staged.follows, h.staged.seen⟩
  · exact ⟨session, schedule, hserving.taken hpop⟩
  · exact h.settings
  · exact h.viewport
  · exact h.ticks
  · exact h.state
  · exact le_trans h.reached (hserving.clock_le_of_popDue? hpop)
  · intro t ht
    apply h.due t
    rw [htimers]
    exact List.mem_cons_of_mem _ ht

/-- The end of a highlight does not touch the state of the ticks. -/
theorem Ticking.unhighlighted (h : Ticking r n m) : Ticking r n m.unhighlighted := by
  obtain ⟨session, schedule, hserving⟩ := h.serving
  exact ⟨⟨h.staged.unique, h.staged.follows, h.staged.seen⟩,
    ⟨session, schedule, hserving.of_eq rfl rfl rfl rfl rfl⟩, h.settings, h.viewport, h.ticks,
    h.state, h.reached, h.due⟩

/-- Neither do bubbles. -/
theorem Ticking.withBubble (h : Ticking r n m) (sprite : SpriteId) (bubble : Option Bubble) :
    Ticking r n (m.withBubble sprite bubble) := by
  obtain ⟨session, schedule, hserving⟩ := h.serving
  have hbodies : ∀ id, ((m.playback.cast.setBubble sprite bubble).get? id).map Actor.body =
      (m.playback.cast.get? id).map Actor.body := by
    intro id
    rw [Cast.get?_setBubble]
    split
    · rw [Option.map_map]
      rfl
    · rfl
  refine ⟨⟨h.staged.unique, ?_, h.staged.seen⟩,
    ⟨session, schedule, hserving.of_eq rfl rfl rfl rfl rfl⟩, h.settings, h.viewport, h.ticks, ?_,
    h.reached, h.due⟩
  · intro id
    exact (Cast.mem_ids_congr (hbodies id)).trans (h.staged.follows id)
  · rw [← h.state]
    exact TickState.ext rfl (funext hbodies) rfl rfl

/-- After a tick has been taken out of the queue, the next one is pending. -/
theorem Ticking.due_of_tick (h : Ticking r n m)
    (hpop : m.playback.queue.popDue? target = some (fired, left)) (hevent : fired.event = .tick)
    (htime : fired.time < .longest) :
    fired.time = r.tickTime (n + 1) ∧
      ∀ t ∈ left.timers, t.event = .tick → t.due = r.tickTime (n + 2) := by
  obtain ⟨session, schedule, hserving⟩ := h.serving
  obtain ⟨t, rest, htimers, -, -, rfl, hleft⟩ := Queue.exists_of_popDue? hpop
  have hmem : t ∈ m.playback.queue.timers := by rw [htimers]; exact List.mem_cons_self
  have hdue : t.due = r.tickTime (n + 1) := h.due t hmem hevent
  -- the tick that fires is the only one
  have hnone : ∀ u ∈ rest, u.event ≠ .tick := by
    have hone := hserving.oneTick (Nat.lt_of_le_of_lt (hserving.due t hmem) htime)
    rw [htimers, List.countP_cons_of_pos (by simpa using hevent), Nat.succ_inj,
      List.countP_eq_zero] at hone
    intro u hu hu'
    exact hone u hu (by simpa using hu')
  refine ⟨hdue, ?_⟩
  intro u hu hu'
  rw [hserving.again?_of_tick hmem hevent htime] at hleft
  rw [hleft] at hu
  rcases mem_insertTimer.1 hu with rfl | hu
  · show t.due + m.playback.settings.tickInterval = _
    rw [hdue, h.settings]
    exact PlaybackSettings.tickTime_succ _ _ _
  · exact absurd hu' (hnone u hu)

/-- **A tick is the next step.** -/
theorem Ticking.tick (h : Ticking r n m)
    (hpop : m.playback.queue.popDue? target = some (fired, left)) (hevent : fired.event = .tick)
    (htime : fired.time < .longest) {session schedule : Token}
    (hserving : m.playback.Serving session schedule) :
    Ticking r (n + 1) ((m.taken fired left).tick session) := by
  obtain ⟨hnow, hnext⟩ := h.due_of_tick hpop hevent htime
  have htaken : Staged (m.taken fired left) :=
    ⟨h.staged.unique, h.staged.follows, h.staged.seen⟩
  have hrunning : ((m.taken fired left).tick session).playback.isRunning = true :=
    (isRunning_tick _ _).trans h.isRunning
  obtain ⟨hsettings, hviewport, hticks⟩ := tick_terms (m.taken fired left) session
  constructor
  · exact htaken.tick _
  · exact (hserving.taken hpop).tick.serving_of_isRunning hrunning
  · exact hsettings.trans h.settings
  · exact hviewport.trans h.viewport
  · rw [hticks, UInt64.ofNat_add, ← UInt64.add_assoc, ← h.ticks]
    rfl
  · rw [htaken.tickState_tick]
    show m.tickState.step m.playback.settings m.playback.viewport fired.time = _
    rw [h.state, h.settings, h.viewport, hnow]
    rfl
  · rw [clock_tick]
    show _ ≤ fired.time.nanos
    rw [hnow] at htime ⊢
    exact Nat.le_of_eq (PlaybackSettings.nanos_tickTime htime).symm
  · intro t ht he
    exact hnext t (Playback.mem_timers_of_tick he ht) he

/-- Every firing is the next step or leaves the state of the ticks alone. -/
theorem Ticking.firedBy (h : Ticking r n m)
    (hpop : m.playback.queue.popDue? target = some (fired, left)) (htarget : target < .longest) :
    ∃ k, Ticking r k (m.firedBy fired left) := by
  obtain ⟨session, schedule, hserving⟩ := h.serving
  have htime : fired.time < .longest :=
    Nat.lt_of_le_of_lt (Queue.time_le_of_popDue? hpop) htarget
  apply hserving.firedBy_cases hpop (P := fun m => ∃ k, Ticking r k m)
  · intro hevent
    exact ⟨n + 1, h.tick hpop hevent htime hserving⟩
  · intro hevent
    exact ⟨n, (h.taken hpop (by rw [hevent]; simp)).unhighlighted⟩
  · intro sprite bubble hevent
    exact ⟨n, (h.taken hpop (by rw [hevent]; simp)).withBubble sprite bubble⟩

/-! ## Portions of time -/

/-- Through a drain there are some steps more. -/
theorem Ticking.drain (h : Ticking r n m) (htarget : target < .longest) :
    ∃ k, Ticking r k (drain target m) := by
  refine forall_drain (P := fun m => ∃ k, Ticking r k m) ?_ ⟨n, h⟩
  rintro m fired left ⟨k, h⟩ hpop
  exact h.firedBy hpop htarget

/-- After a portion of time the next tick is still to come. -/
theorem Ticking.advance (h : Ticking r n m) {dt : Duration}
    (hend : m.playback.clock + dt < .longest) :
    ∃ k, Ticking r k (m.advance dt) ∧ (m.advance dt).playback.clock < r.tickTime (k + 1) := by
  obtain ⟨k, hk⟩ := h.sync.drain hend
  have hpop := popDue?_drain (m.playback.clock + dt) m.sync
  have harrive := hk.arrive (clock_drain_sync_le m dt) hpop
  refine ⟨k, harrive, ?_⟩
  -- one tick is pending, and nothing pending is due
  obtain ⟨session, schedule, hserving⟩ := harrive.serving
  have hone := hserving.oneTick hend
  obtain ⟨t, ht, hevent⟩ : ∃ t ∈ (Run.drain (m.playback.clock + dt) m.sync).playback.queue.timers,
      decide (t.event = .tick) = true := by
    rw [← List.countP_pos_iff]
    exact Nat.lt_of_lt_of_eq Nat.zero_lt_one hone.symm
  rw [← hk.due t ht (of_decide_eq_true hevent)]
  exact Queue.popDue?_eq_none_iff.1 hpop t ht

/-- The number of ticks is the number of whole intervals since the session began. -/
theorem Ticking.count (h : Ticking r n m) (hnext : m.playback.clock < r.tickTime (n + 1)) :
    n = (m.playback.clock.nanos - r.playback.clock.nanos) /
      r.playback.settings.tickInterval.nanos := by
  have hpos := Playback.tickInterval_pos r.playback.settings
  have hreached := h.reached
  have hbelow : m.playback.clock.nanos <
      r.playback.clock.nanos + (n + 1) * r.playback.settings.tickInterval.nanos := by
    have hle : (r.tickTime (n + 1)).nanos ≤
        r.playback.clock.nanos + (n + 1) * r.playback.settings.tickInterval.nanos := by
      unfold tickTime PlaybackSettings.tickTime
      rw [Duration.nanos_ofNanos]
      exact Nat.min_le_left _ _
    exact Nat.lt_of_lt_of_le hnext hle
  refine (Nat.div_eq_of_lt_le ?_ ?_).symm
  · omega
  · omega

/-- After any portions of time the run has been through some number of steps, and the next tick is
still to come. -/
theorem Ticking.advances (h : Ticking r n m) (hnext : m.playback.clock < r.tickTime (n + 1))
    (dts : List Duration)
    (hend : m.playback.clock.nanos + (dts.map (·.nanos)).sum < Duration.longest.nanos) :
    ∃ k, Ticking r k (dts.foldl Run.advance m) ∧
      (dts.foldl Run.advance m).playback.clock < r.tickTime (k + 1) ∧
      (dts.foldl Run.advance m).playback.clock.nanos =
        m.playback.clock.nanos + (dts.map (·.nanos)).sum := by
  -- one portion after the other, while the sum stays short of the end of time
  induction dts generalizing n m with
  | nil => exact ⟨n, h, hnext, rfl⟩
  | cons dt rest ih =>
    rw [List.map_cons, List.sum_cons] at hend ⊢
    have hclock : (m.playback.clock + dt).nanos = m.playback.clock.nanos + dt.nanos := by
      rw [Duration.nanos_longest] at hend
      rw [Duration.nanos_add]
      omega
    have hlt : m.playback.clock + dt < .longest := by
      rw [Duration.lt_iff, hclock]
      omega
    obtain ⟨k, hk, hknext⟩ := h.advance hlt
    have hmoved : (m.advance dt).playback.clock.nanos = m.playback.clock.nanos + dt.nanos := hclock
    obtain ⟨j, hj, hjnext, hjclock⟩ := ih hk hknext (by rw [hmoved]; omega)
    refine ⟨j, hj, hjnext, ?_⟩
    rw [List.foldl_cons, hjclock, hmoved]
    omega

/-- **Ticks refine the pure step.** When a session begins on a program whose sprites have their own
ids, and then time passes in any portions, short of the end of time, there is one tick for every
whole interval in the sum of the portions; they are counted in 64 bits. The program, the actors
without their bubbles, the lock and what is told of the last swap are what so many pure steps make
of them, from the state in which no script has run and the lock is open. -/
theorem advances_refine_steps (h : Reachable r) (hstopped : r.playback.isRunning = false)
    (hids : (r.program.sprites.map (·.id)).Nodup) (dts : List Duration)
    (hend : r.playback.clock.nanos + (dts.map (·.nanos)).sum < Duration.longest.nanos) :
    (dts.foldl Run.advance r.play).playback.ticks = r.playback.ticks +
        .ofNat ((dts.map (·.nanos)).sum / r.playback.settings.tickInterval.nanos) ∧
      (dts.foldl Run.advance r.play).tickState =
        TickState.ticked r.playback.settings r.playback.viewport r.playback.clock r.opening
          ((dts.map (·.nanos)).sum / r.playback.settings.tickInterval.nanos) := by
  have hticking := ticking_play h hstopped hids
  have hclock : r.play.playback.clock = r.playback.clock := by
    unfold play
    rw [hstopped]
    exact clock_sync r
  have hnext : r.play.playback.clock < r.tickTime 1 := by
    unfold tickTime
    rw [hclock, ← PlaybackSettings.tickTime_succ, PlaybackSettings.tickTime_zero,
      Duration.lt_add_iff (Playback.tickInterval_pos _), Duration.lt_iff]
    omega
  obtain ⟨k, hk, hknext, hkclock⟩ := hticking.advances hnext dts (by rw [hclock]; exact hend)
  have hcount : k = (dts.map (·.nanos)).sum / r.playback.settings.tickInterval.nanos := by
    rw [hk.count hknext, hkclock, hclock, Nat.add_sub_cancel_left]
  rw [← hcount]
  exact ⟨hk.ticks, hk.state⟩

/-- Three portions of time on the program of two sprites that meet hold two ticks, whichever way
they are cut. -/
theorem advances_refine_steps_encounter :
    let r := fresh {} 7 .encounter
    let dts : List Duration := [.ofMillis 300, .ofMillis 300, .ofMillis 500]
    (r.playback.isRunning = false ∧ (r.program.sprites.map (·.id)).Nodup) ∧
      (dts.foldl Run.advance r.play).playback.ticks = 2 ∧
      (dts.foldl Run.advance r.play).tickState =
        TickState.ticked r.playback.settings r.playback.viewport r.playback.clock r.opening 2 := by
  have hids : ((fresh {} 7 .encounter).program.sprites.map (·.id)).Nodup := by decide
  obtain ⟨hticks, hstate⟩ := advances_refine_steps (Reachable.fresh {} 7 .encounter) rfl hids
    [.ofMillis 300, .ofMillis 300, .ofMillis 500] (by decide)
  exact ⟨⟨rfl, hids⟩, hticks, hstate⟩

end Run

end SpriteStage
