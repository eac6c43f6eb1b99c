import SpriteStage.Proofs.Casting
import SpriteStage.Playback.Run

/-!
# What a run passes through

From outside a run is changed by calls, and between calls its program may be edited in any way
(`Call`). Advancing is made of smaller moves: a look at the program, one firing after the other,
and at last the clock's own move to the target (`firings`, `trail`, `history`). What every such
move keeps holds of every reachable run and of all that is passed through (`Invariant`).
-/

namespace SpriteStage

namespace Playback

/-- The token of the session, while one is on. -/
def session? (p : Playback) : Option Token :=
  match p.mode with
  | .stopped => none
  | .running session _ => some session

/-- The token of the bubbles, while a session is on. -/
def schedule? (p : Playback) : Option Token :=
  match p.mode with
  | .stopped => none
  | .running _ schedule => some schedule

/-- A timer of this owner and event has something to do: ticks and the end of a highlight belong to
the session, bubbles to the schedule. -/
def Answers (p : Playback) (owner : Token) : TimedEvent → Prop
  | .tick => p.session? = some owner
  | .clearHighlight => p.session? = some owner
  | .bubble _ _ => p.schedule? = some owner

theorem isRunning_eq_false_iff {p : Playback} : p.isRunning = false ↔ p.mode = .stopped := by
  unfold isRunning
  cases p.mode <;> simp

theorem isRunning_eq_true_iff {p : Playback} :
    p.isRunning = true ↔ ∃ session schedule, p.mode = .running session schedule := by
  unfold isRunning
  cases p.mode <;> simp

/-! ## A look at the program -/

/-- The playback after a look at other sprites, before its bubbles are scheduled anew. -/
def noticed (p : Playback) (sprites : List Sprite) : Playback :=
  let gone := p.cast.departed sprites
  { p with
    cast := p.cast.reconcile sprites
    highlighted := p.highlighted.filter fun pair => pair.1 ∉ gone ∧ pair.2 ∉ gone
    seen := sprites }

theorem notice_of_stopped {p : Playback} (h : p.mode = .stopped) (sprites : List Sprite) :
    p.notice sprites = p.noticed sprites := by
  simp only [notice, h, noticed]

/-- In a session the bubbles of the new sprites are scheduled anew. -/
theorem notice_of_running {p : Playback} {session schedule : Token}
    (h : p.mode = .running session schedule) (sprites : List Sprite) :
    p.notice sprites = (p.noticed sprites).scheduleBubbles session := by
  simp only [notice, h, noticed]

/-- A look at sprites that agree with those seen changes nothing. -/
theorem sync_of_agree {p : Playback} {sprites : List Sprite}
    (h : spritesAgree p.seen sprites = true) : p.sync sprites = p := if_pos h

/-- A look at other sprites in a session takes notice of them and schedules their bubbles. -/
theorem sync_of_running {p : Playback} {sprites : List Sprite} {session schedule : Token}
    (h : spritesAgree p.seen sprites = false) (hmode : p.mode = .running session schedule) :
    p.sync sprites = (p.noticed sprites).scheduleBubbles session := by
  unfold sync
  rw [if_neg (by simp [h]), notice_of_running hmode]

/-- **What a look at the program does.** Nothing if the sprites agree with those seen. Otherwise
they are taken notice of, and in a session the bubbles are scheduled anew. -/
theorem sync_cases {p : Playback} {sprites : List Sprite} {P : Playback → Prop}
    (hsame : spritesAgree p.seen sprites = true → P p)
    (hstopped : p.mode = .stopped → P (p.noticed sprites))
    (hrunning : ∀ session schedule, p.mode = .running session schedule →
      P ((p.noticed sprites).scheduleBubbles session)) : P (p.sync sprites) := by
  unfold sync
  split
  · rename_i hagree
    exact hsame hagree
  · cases hmode : p.mode with
    | stopped =>
      rw [notice_of_stopped hmode]
      exact hstopped hmode
    | running session schedule =>
      rw [notice_of_running hmode]
      exact hrunning session schedule hmode

/-- The two playbacks agree on everything that a look at the program leaves alone. -/
structure Alike (p q : Playback) : Prop where
  settings : q.settings = p.settings
  clock : q.clock = p.clock
  viewport : q.viewport = p.viewport
  swapLocked : q.swapLocked = p.swapLocked
  lastSwap : q.lastSwap = p.lastSwap
  lastStamp : q.lastStamp = p.lastStamp
  ticks : q.ticks = p.ticks
  hues : q.hues = p.hues

/-- A look at the program changes the cast, the queue, the highlight and what was seen, no more. -/
theorem alike_sync (p : Playback) (sprites : List Sprite) : Alike p (p.sync sprites) := by
  apply sync_cases (P := fun q => Alike p q)
  · intro _
    exact ⟨rfl, rfl, rfl, rfl, rfl, rfl, rfl, rfl⟩
  · intro _
    exact ⟨rfl, rfl, rfl, rfl, rfl, rfl, rfl, rfl⟩
  · intro session schedule _
    exact ⟨rfl, rfl, rfl, rfl, rfl, rfl, rfl, rfl⟩

end Playback

/-- Two sprites that are close to each other. One moves, the other speaks, and they swap on the
first tick. -/
def Program.encounter : Program where
  stage := {}
  sprites :=
    [⟨⟨1⟩, "Cat 1", 50.0, 50.0, [⟨⟨1⟩, .move (some 10.0)⟩, ⟨⟨2⟩, .forever⟩]⟩,
      ⟨⟨2⟩, "Cat 2", 80.0, 60.0, [⟨⟨3⟩, .bubble .say (some "Hello") (some 2.0)⟩]⟩]

namespace Run

/-! ## Ticks and swaps in parts -/

/-- A tick without its swap: the scripts have run and the tick is counted. -/
def acted (r : Run) : Run :=
  { r with playback := { r.playback with
    ticks := r.playback.ticks + 1
    cast := actAll r.playback.viewport r.program.sprites r.playback.cast } }

/-- A swap without its look at the program: the lock is closed, the swap is told of and the pair is
highlighted for its time. -/
def announced (r : Run) (session : Token) (a b : SpriteId) : Playback :=
  { r.playback with
    swapLocked := true
    highlighted := some (a, b)
    lastSwap := some ⟨r.program.nameOf a, r.program.nameOf b, r.playback.clock.asMillis⟩
    queue := r.playback.queue.schedule (r.playback.clock + r.playback.settings.highlight) session
      .clearHighlight }

/-- A swap is announced, and then the program is looked at with its scripts exchanged. -/
theorem swap_eq (r : Run) (session : Token) (a b : SpriteId) :
    r.swap session a b = ⟨(r.announced session a b).sync (r.program.swapScripts a b).sprites,
      r.program.swapScripts a b⟩ := rfl

/-- **What a tick does.** The scripts run, and then the first close pair swaps if the lock is
open. -/
theorem tick_eq (r : Run) (session : Token) :
    r.tick session =
      if r.playback.swapLocked then r.acted
      else
        match firstClosePair? r.acted.playback.cast.positions r.playback.settings.swapDistance with
        | some (a, b) => r.acted.swap session a b
        | none => r.acted := rfl

/-- A tick leads to what the scripts leave behind, or to a swap after that. -/
theorem tick_cases {r : Run} {session : Token} {P : Run → Prop} (hacted : P r.acted)
    (hswap : ∀ a b, P (r.acted.swap session a b)) : P (r.tick session) := by
  rw [tick_eq]
  split
  · exact hacted
  · split
    · exact hswap _ _
    · exact hacted

/-! ## One firing -/

/-- The run after a timer has been taken out of the queue, at the timer's time. -/
def taken (r : Run) (fired : Fired TimedEvent) (left : Queue TimedEvent) : Run :=
  { r with playback := { r.playback with queue := left, clock := fired.time } }

/-- The run without a highlight. -/
def unhighlighted (r : Run) : Run := { r with playback := { r.playback with highlighted := none } }

/-- The run after a sprite's bubble has changed. -/
def withBubble (r : Run) (sprite : SpriteId) (bubble : Option Bubble) : Run :=
  { r with playback := { r.playback with cast := r.playback.cast.setBubble sprite bubble } }

/-- The run after a timer has fired. -/
def firedBy (r : Run) (fired : Fired TimedEvent) (left : Queue TimedEvent) : Run :=
  fire { r with playback := { r.playback with queue := left } } fired

variable {r : Run} {fired : Fired TimedEvent} {left : Queue TimedEvent}

/-- **What a firing does.** The timer is taken out, and then nothing else happens, or what its event
asks for. -/
theorem firedBy_cases {P : Run → Prop} (hidle : P (r.taken fired left))
    (htick : P ((r.taken fired left).tick fired.owner))
    (hclear : P (r.taken fired left).unhighlighted)
    (hbubble : ∀ sprite bubble, P ((r.taken fired left).withBubble sprite bubble)) :
    P (r.firedBy fired left) := by
  unfold firedBy fire
  dsimp only
  split
  · exact hidle
  · split
    · split
      · rename_i howner
        rw [← howner]
        exact htick
      · exact hidle
    · split
      · exact hclear
      · exact hidle
    · split
      · exact hbubble _ _
      · exact hidle

/-- A tick of the session that is on is carried out. -/
theorem firedBy_tick (howner : r.playback.session? = some fired.owner)
    (hevent : fired.event = .tick) :
    r.firedBy fired left = (r.taken fired left).tick fired.owner := by
  unfold Playback.session? at howner
  unfold firedBy fire
  cases hmode : r.playback.mode with
  | stopped => simp [hmode] at howner
  | running session schedule =>
    obtain rfl : session = fired.owner := by simpa [hmode] using howner
    simp only [taken, hmode, hevent, if_true]

/-- The end of a highlight in its session takes the highlight away. -/
theorem firedBy_clearHighlight (howner : r.playback.session? = some fired.owner)
    (hevent : fired.event = .clearHighlight) :
    r.firedBy fired left = (r.taken fired left).unhighlighted := by
  unfold Playback.session? at howner
  unfold firedBy fire
  cases hmode : r.playback.mode with
  | stopped => simp [hmode] at howner
  | running session schedule =>
    obtain rfl : session = fired.owner := by simpa [hmode] using howner
    simp only [taken, unhighlighted, hmode, hevent, if_true]

/-- A bubble of the schedule that is on comes or goes. -/
theorem firedBy_bubble {sprite : SpriteId} {bubble : Option Bubble}
    (howner : r.playback.schedule? = some fired.owner)
    (hevent : fired.event = .bubble sprite bubble) :
    r.firedBy fired left = (r.taken fired left).withBubble sprite bubble := by
  unfold Playback.schedule? at howner
  unfold firedBy fire
  cases hmode : r.playback.mode with
  | stopped => simp [hmode] at howner
  | running session schedule =>
    obtain rfl : schedule = fired.owner := by simpa [hmode] using howner
    simp only [taken, withBubble, hmode, hevent, if_true]

theorem drain_of_none {target : Duration} (h : r.playback.queue.popDue? target = none) :
    drain target r = r := by
  rw [drain]
  split
  · rfl
  · rename_i hsome
    rw [h] at hsome
    simp at hsome

theorem drain_of_some {target : Duration}
    (h : r.playback.queue.popDue? target = some (fired, left)) :
    drain target r = drain target (r.firedBy fired left) := by
  rw [drain]
  split
  · rename_i hnone
    rw [h] at hnone
    simp at hnone
  · rename_i hsome
    rw [h] at hsome
    obtain ⟨rfl, rfl⟩ := Prod.mk.inj (Option.some.inj hsome)
    rfl

/-! ## The firings of a drain -/

/-- One firing of a drain. -/
structure Firing where
  /-- The run in which the timer fires. -/
  run : Run
  timer : Fired TimedEvent
  /-- The timers that are left when it is taken out. -/
  left : Queue TimedEvent

/-- The run after a firing. -/
def Firing.result (f : Firing) : Run := f.run.firedBy f.timer f.left

/-- The firings of a drain, in their order. The runs that it passes through, its ticks and the
timers that it takes out are all read off this list. -/
def firings (target : Duration) (r : Run) : List Firing :=
  match _h : r.playback.queue.popDue? target with
  | none => []
  | some (fired, left) => ⟨r, fired, left⟩ :: firings target (r.firedBy fired left)
  termination_by remaining target r
  decreasing_by exact remaining_fire _h

theorem firings_of_none {target : Duration} (h : r.playback.queue.popDue? target = none) :
    firings target r = [] := by
  rw [firings]
  split
  · rfl
  · rename_i hsome
    rw [h] at hsome
    simp at hsome

/-- The first firing is that of the first timer due, and the others come after it. -/
theorem firings_of_some {target : Duration}
    (h : r.playback.queue.popDue? target = some (fired, left)) :
    firings target r = ⟨r, fired, left⟩ :: firings target (r.firedBy fired left) := by
  rw [firings]
  split
  · rename_i hnone
    rw [h] at hnone
    simp at hnone
  · rename_i hsome
    rw [h] at hsome
    obtain ⟨rfl, rfl⟩ := Prod.mk.inj (Option.some.inj hsome)
    rfl

/-- **Induction along a drain.** What holds when nothing more fires, and holds before a firing if
it holds after it, holds throughout. -/
theorem drain_induction (target : Duration) {P : Run → Prop}
    (hdone : ∀ r, r.playback.queue.popDue? target = none → P r)
    (hfire : ∀ r fired left, r.playback.queue.popDue? target = some (fired, left) →
      P (r.firedBy fired left) → P r) (r : Run) : P r := by
  induction r using firings.induct target with
  | case1 r h => exact hdone r h
  | case2 r fired left h ih => exact hfire r fired left h ih

/-- When a drain ends, nothing is due any more. -/
theorem popDue?_drain (target : Duration) (r : Run) :
    (drain target r).playback.queue.popDue? target = none := by
  induction r using drain_induction target with
  | hdone r h => rwa [drain_of_none h]
  | hfire r fired left h ih => rwa [drain_of_some h]

/-- What every firing keeps holds in every run in which a timer of a drain fires, and the timer is
the first one due there. -/
theorem forall_firings {target : Duration} {P : Run → Prop}
    (hfire : ∀ r fired left, P r → r.playback.queue.popDue? target = some (fired, left) →
      P (r.firedBy fired left)) (r : Run) :
    P r → ∀ f ∈ firings target r,
      P f.run ∧ f.run.playback.queue.popDue? target = some (f.timer, f.left) := by
  induction r using drain_induction target with
  | hdone r h =>
    intro _ f hf
    rw [firings_of_none h] at hf
    exact absurd hf List.not_mem_nil
  | hfire r fired left h ih =>
    intro hr f hf
    rw [firings_of_some h] at hf
    rcases List.mem_cons.1 hf with rfl | hf
    · exact ⟨hr, h⟩
    · exact ih (hfire r fired left hr h) f hf

/-- The first so many firings of a drain. They can be computed, for they are counted down. -/
def firingsWithin (target : Duration) : ℕ → Run → List Firing
  | 0, _ => []
  | k + 1, r =>
    match r.playback.queue.popDue? target with
    | none => []
    | some (fired, left) => ⟨r, fired, left⟩ :: firingsWithin target k (r.firedBy fired left)

/-- Counted down or not, the firings are the same. -/
theorem firingsWithin_eq_take (target : Duration) (k : ℕ) (r : Run) :
    firingsWithin target k r = (firings target r).take k := by
  induction k generalizing r with
  | zero => rw [firingsWithin, List.take_zero]
  | succ k ih =>
    unfold firingsWithin
    split
    · rename_i hpop
      rw [firings_of_none hpop, List.take_nil]
    · rename_i fired left hpop
      rw [firings_of_some hpop, List.take_succ_cons, ih]

/-- The runs that a drain passes through, one after each firing. -/
def runsBy (target : Duration) (r : Run) : List Run := (firings target r).map Firing.result

/-- A drain ends with the last run that it passes through. -/
theorem getLast_runsBy (target : Duration) (r : Run) :
    (r :: runsBy target r).getLast (List.cons_ne_nil _ _) = drain target r := by
  unfold runsBy
  -- along the drain, for both recurse in the same way
  induction r using drain_induction target with
  | hdone r h =>
    rw [drain_of_none h]
    simp [firings_of_none h]
  | hfire r fired left h ih =>
    rw [drain_of_some h, ← ih]
    simp [firings_of_some h, Firing.result]

/-- What every firing keeps holds of all that a drain passes through. -/
theorem forall_runsBy {target : Duration} {P : Run → Prop}
    (hfire : ∀ r fired left, P r → r.playback.queue.popDue? target = some (fired, left) →
      P (r.firedBy fired left)) {r : Run} (hr : P r) : ∀ m ∈ r :: runsBy target r, P m := by
  intro m hm
  rcases List.mem_cons.1 hm with rfl | hm
  · exact hr
  · obtain ⟨f, hf, rfl⟩ := List.mem_map.1 hm
    obtain ⟨hrun, hpop⟩ := forall_firings hfire r hr f hf
    exact hfire _ _ _ hrun hpop

/-- What every firing keeps holds when a drain has ended. -/
theorem forall_drain {target : Duration} {P : Run → Prop}
    (hfire : ∀ r fired left, P r → r.playback.queue.popDue? target = some (fired, left) →
      P (r.firedBy fired left)) {r : Run} (h : P r) : P (drain target r) := by
  rw [← getLast_runsBy]
  exact forall_runsBy hfire h _ (List.getLast_mem _)

/-! ## Calls -/

/-- What can be done to a run from outside, edits of its program among it. -/
inductive Call where
  | edit (program : Program)
  | resize (viewport : Viewport)
  | sync
  | play
  | stop
  | setPlaying (on : Bool)
  | advance (dt : Duration)
  | click (c : Click)

/-- The run after a call. -/
def call (r : Run) : Call → Run
  | .edit program => { r with program := program }
  | .resize viewport => { r with playback := r.playback.resize viewport }
  | .sync => r.sync
  | .play => r.play
  | .stop => r.stop
  | .setPlaying on => r.setPlaying on
  | .advance dt => r.advance dt
  | .click c => { r with playback := r.playback.click c }

/-- The run after one call after the other. -/
def after (r : Run) (calls : List Call) : Run := calls.foldl call r

/-- A playback that has not looked at its program yet. -/
def fresh (settings : PlaybackSettings) (seed : UInt64) (program : Program) : Run :=
  ⟨.fresh settings seed, program⟩

/-- A run that calls can lead to. -/
inductive Reachable : Run → Prop where
  | fresh (settings : PlaybackSettings) (seed : UInt64) (program : Program) :
      Reachable (fresh settings seed program)
  | call {r : Run} (h : Reachable r) (c : Call) : Reachable (r.call c)

/-- Calls lead from reachable runs to reachable runs. -/
theorem Reachable.after {r : Run} (h : Reachable r) (calls : List Call) :
    Reachable (r.after calls) := by
  induction calls generalizing r with
  | nil => exact h
  | cons c rest ih => exact ih (h.call c)

/-- What a run passes through while time passes, up to the firing that comes last. -/
def moments (r : Run) (dt : Duration) : List Run :=
  r.sync :: runsBy (r.playback.clock + dt) r.sync

/-- What a run passes through in a call, its result last. -/
def trail (r : Run) : Call → List Run
  | .advance dt => r.moments dt ++ [r.advance dt]
  | c => [r.call c]

/-- What a run passes through in one call after the other. -/
def history (r : Run) : List Call → List Run
  | [] => []
  | c :: rest => r.trail c ++ (r.call c).history rest

/-! ## Step by step -/

/-- A call ends with the run that it leads to. -/
theorem trail_concat (r : Run) (c : Call) : ∃ before, r :: r.trail c = before ++ [r.call c] := by
  cases c with
  | advance dt => exact ⟨r :: r.moments dt, rfl⟩
  | _ => exact ⟨[r], rfl⟩

variable {R : Run → Run → Prop}

/-- What holds of each firing holds from each run to the next along a drain. -/
theorem isChain_runsBy (hfire : ∀ r fired left, R r (firedBy r fired left)) (target : Duration)
    (r : Run) : (r :: runsBy target r).IsChain R := by
  unfold runsBy
  induction r using drain_induction target with
  | hdone r h =>
    rw [firings_of_none h]
    exact List.isChain_singleton r
  | hfire r fired left h ih =>
    rw [firings_of_some h, List.map_cons, List.isChain_cons_cons]
    exact ⟨hfire r fired left, ih⟩

/-- What holds of the look at the program, of each firing and of the clock's own move holds from
each run to the next while time passes. -/
theorem isChain_trail_advance {dt : Duration} (hsync : R r r.sync)
    (hfire : ∀ r fired left, R r (firedBy r fired left))
    (harrive : R (drain (r.playback.clock + dt) r.sync) (r.advance dt)) :
    (r :: r.trail (.advance dt)).IsChain R := by
  show (r :: r.sync :: (runsBy (r.playback.clock + dt) r.sync ++ [r.advance dt])).IsChain R
  rw [List.isChain_cons_cons]
  refine ⟨hsync, ?_⟩
  -- the clock's own move comes after the last firing
  have hlast := List.dropLast_append_getLast
    (List.cons_ne_nil r.sync (runsBy (r.playback.clock + dt) r.sync))
  have hfirings := isChain_runsBy hfire (r.playback.clock + dt) r.sync
  rw [getLast_runsBy] at hlast
  rw [← List.cons_append, ← hlast, List.append_assoc]
  rw [← hlast] at hfirings
  exact List.isChain_split.2
    ⟨hfirings, List.isChain_cons_cons.2 ⟨harrive, List.isChain_singleton _⟩⟩

/-- What holds along the trail of each call holds along the history of all. -/
theorem isChain_history {calls : List Call}
    (htrail : ∀ before c later, calls = before ++ c :: later →
      (r.after before :: (r.after before).trail c).IsChain R) :
    (r :: r.history calls).IsChain R := by
  induction calls generalizing r with
  | nil => exact List.isChain_singleton r
  | cons c rest ih =>
    obtain ⟨before, hconcat⟩ := r.trail_concat c
    have hfirst : (r :: r.trail c).IsChain R := htrail [] c rest rfl
    have hrest := ih (r := r.call c) (by
      intro before c' later heq
      exact htrail (c :: before) c' later (by rw [heq]; rfl))
    rw [history, ← List.cons_append, hconcat, List.append_assoc, List.singleton_append]
    rw [hconcat] at hfirst
    exact List.isChain_split.2 ⟨hfirst, hrest⟩

/-! ## Invariants -/

/-- A look at the program takes no time. -/
theorem clock_sync (r : Run) : r.sync.playback.clock = r.playback.clock :=
  (Playback.alike_sync r.playback r.program.sprites).clock

theorem clock_tick (r : Run) (session : Token) :
    (r.tick session).playback.clock = r.playback.clock := by
  apply tick_cases (P := fun m => m.playback.clock = r.playback.clock)
  · rfl
  · intro a b
    rw [swap_eq]
    exact (Playback.alike_sync _ _).clock

/-- A tick is counted, and does not touch the terms of the session. -/
theorem tick_terms (r : Run) (session : Token) :
    (r.tick session).playback.settings = r.playback.settings ∧
      (r.tick session).playback.viewport = r.playback.viewport ∧
      (r.tick session).playback.ticks = r.playback.ticks + 1 := by
  apply tick_cases (P := fun m => m.playback.settings = r.playback.settings ∧
    m.playback.viewport = r.playback.viewport ∧ m.playback.ticks = r.playback.ticks + 1)
  · exact ⟨rfl, rfl, rfl⟩
  · intro a b
    have halike := Playback.alike_sync (r.acted.announced session a b)
      (r.acted.program.swapScripts a b).sprites
    exact ⟨halike.settings, halike.viewport, halike.ticks⟩

/-- After a firing the clock shows the time of the timer. -/
theorem clock_firedBy (r : Run) (fired : Fired TimedEvent) (left : Queue TimedEvent) :
    (r.firedBy fired left).playback.clock = fired.time := by
  apply firedBy_cases (P := fun m => m.playback.clock = fired.time)
  · rfl
  · rw [clock_tick]
    rfl
  · rfl
  · intro sprite bubble
    rfl

/-- The settings are those of the beginning for good. -/
theorem settings_firedBy (r : Run) (fired : Fired TimedEvent) (left : Queue TimedEvent) :
    (r.firedBy fired left).playback.settings = r.playback.settings := by
  apply firedBy_cases (P := fun m => m.playback.settings = r.playback.settings)
  · rfl
  · exact (tick_terms _ _).1
  · rfl
  · intro sprite bubble
    rfl

/-- A property of runs that no call and no firing breaks. -/
structure Invariant (P : Run → Prop) : Prop where
  fresh : ∀ settings seed program, P (fresh settings seed program)
  edit : ∀ {r : Run}, P r → ∀ program, P { r with program := program }
  resize : ∀ {r : Run}, P r → ∀ v, P { r with playback := r.playback.resize v }
  sync : ∀ {r : Run}, P r → P r.sync
  start : ∀ {r : Run}, P r → r.playback.mode = .stopped → P { r with playback := r.playback.start }
  stop : ∀ {r : Run}, P r → P r.stop
  click : ∀ {r : Run}, P r → ∀ c, P { r with playback := r.playback.click c }
  fire : ∀ {r : Run} {target : Duration} {fired : Fired TimedEvent} {left : Queue TimedEvent},
    P r → r.playback.queue.popDue? target = some (fired, left) → P (r.firedBy fired left)
  arrive : ∀ {r : Run} {target : Duration}, P r → r.playback.clock ≤ target →
    r.playback.queue.popDue? target = none →
    P { r with playback := { r.playback with clock := target } }

/-- A look at the program neither begins nor ends a session. -/
theorem isRunning_playback_sync (p : Playback) (sprites : List Sprite) :
    (p.sync sprites).isRunning = p.isRunning := by
  apply Playback.sync_cases (P := fun q => q.isRunning = p.isRunning)
  · intro _
    rfl
  · intro _
    rfl
  · intro session schedule hmode
    exact (Playback.isRunning_eq_true_iff.2 ⟨_, _, hmode⟩).symm

theorem mode_sync_of_stopped {r : Run} (h : r.playback.mode = .stopped) :
    r.sync.playback.mode = .stopped := by
  rw [← Playback.isRunning_eq_false_iff] at h ⊢
  rw [← h]
  exact isRunning_playback_sync _ _

theorem isRunning_tick (r : Run) (session : Token) :
    (r.tick session).playback.isRunning = r.playback.isRunning := by
  apply tick_cases (P := fun m => m.playback.isRunning = r.playback.isRunning)
  · rfl
  · intro a b
    rw [swap_eq]
    exact isRunning_playback_sync _ _

theorem isRunning_firedBy (r : Run) (fired : Fired TimedEvent) (left : Queue TimedEvent) :
    (r.firedBy fired left).playback.isRunning = r.playback.isRunning := by
  apply firedBy_cases (P := fun m => m.playback.isRunning = r.playback.isRunning)
  · rfl
  · rw [isRunning_tick]
    rfl
  · rfl
  · intro sprite bubble
    rfl

/-- Sessions do not begin or end as time passes. -/
theorem isRunning_advance (r : Run) (dt : Duration) :
    (r.advance dt).playback.isRunning = r.playback.isRunning := by
  refine forall_drain (P := fun m => m.playback.isRunning = r.playback.isRunning) ?_
    (isRunning_playback_sync _ _)
  intro m fired left hm _
  rw [isRunning_firedBy, hm]

/-- All that fires while time passes fires by its end. -/
theorem clock_drain_sync_le (r : Run) (dt : Duration) :
    (drain (r.playback.clock + dt) r.sync).playback.clock ≤ r.playback.clock + dt := by
  refine forall_drain (P := fun m => m.playback.clock ≤ r.playback.clock + dt) ?_ ?_
  · intro m fired left _ hpop
    rw [clock_firedBy]
    exact Queue.time_le_of_popDue? hpop
  · rw [clock_sync]
    exact Duration.le_add_right _ _

namespace Invariant

variable {P : Run → Prop}

theorem play (hP : Invariant P) {r : Run} (h : P r) : P r.play := by
  unfold Run.play
  split
  · exact h
  · rename_i hstopped
    rw [Bool.not_eq_true, Playback.isRunning_eq_false_iff] at hstopped
    exact hP.start (hP.sync h) (mode_sync_of_stopped hstopped)

/-- An invariant holds of all that a run passes through while time passes. -/
theorem moments (hP : Invariant P) {r : Run} (h : P r) (dt : Duration) :
    ∀ m ∈ r.moments dt, P m :=
  forall_runsBy (fun _ _ _ hm hpop => hP.fire hm hpop) (hP.sync h)

theorem advance (hP : Invariant P) {r : Run} (h : P r) (dt : Duration) : P (r.advance dt) := by
  have hdrain : P (drain (r.playback.clock + dt) r.sync) :=
    forall_drain (fun _ _ _ hm hpop => hP.fire hm hpop) (hP.sync h)
  exact hP.arrive hdrain (clock_drain_sync_le r dt) (popDue?_drain _ _)

theorem call (hP : Invariant P) {r : Run} (h : P r) (c : Call) : P (r.call c) := by
  cases c with
  | edit program => exact hP.edit h program
  | resize viewport => exact hP.resize h viewport
  | sync => exact hP.sync h
  | play => exact hP.play h
  | stop => exact hP.stop h
  | setPlaying on =>
    cases on with
    | false => exact hP.stop h
    | true => exact hP.play h
  | advance dt => exact hP.advance h dt
  | click c => exact hP.click h c

/-- **Invariants hold of every reachable run.** -/
theorem reachable (hP : Invariant P) {r : Run} (h : Reachable r) : P r := by
  induction h with
  | fresh settings seed program => exact hP.fresh settings seed program
  | call _ c ih => exact hP.call ih c

end Invariant

end Run

end SpriteStage
