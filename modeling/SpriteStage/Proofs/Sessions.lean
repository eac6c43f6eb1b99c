import SpriteStage.Proofs.Actors

/-!
# Sessions and their timers

Every pending timer belongs to what is on. A stopped playback has no timers, no bubbles and no
highlight (`AtRest`). In a session the ticks and the end of the highlight belong to the session, the
bubbles to the schedule that is on, nothing is overdue, and exactly one tick is pending until time
ends (`Serving`). Both are kept by every call and through the firings themselves, where a swap
schedules the bubbles anew (`invariant_orderly`), so no timer fires in vain
(`timers_belong_to_session`). For their owners no call takes more than two new tokens
(`lastToken_after_le`).
-/

namespace SpriteStage

/-- The token that a timer of this event belongs to. -/
def TimedEvent.ownerIn (session schedule : Token) : TimedEvent → Token
  | .tick => session
  | .clearHighlight => session
  | .bubble _ _ => schedule

/-- The event changes a bubble. -/
def TimedEvent.isBubble : TimedEvent → Bool
  | .bubble _ _ => true
  | _ => false

namespace Playback

/-! ## The two states of a playback -/

/-- Only ticks repeat, and they do so in the tempo of the settings. -/
def pace (s : PlaybackSettings) : TimedEvent → Option Duration
  | .tick => some s.tickInterval
  | .clearHighlight => none
  | .bubble _ _ => none

/-- No session is on, and nothing is left of the one before. -/
structure AtRest (p : Playback) : Prop where
  mode : p.mode = .stopped
  timers : p.queue.timers = []
  bubbles : ∀ id a, p.cast.get? id = some a → a.bubble = none
  highlighted : p.highlighted = none

/-- A session is on with its schedule, and all pending timers are theirs. -/
structure Serving (p : Playback) (session schedule : Token) : Prop where
  mode : p.mode = .running session schedule
  issued : session.number < schedule.number ∧ schedule.number ≤ p.lastToken.number
  owner : ∀ t ∈ p.queue.timers, t.owner = t.event.ownerIn session schedule
  every : ∀ t ∈ p.queue.timers, t.every = pace p.settings t.event
  due : ∀ t ∈ p.queue.timers, p.clock ≤ t.due
  oneTick : p.clock < .longest → p.queue.timers.countP (·.event = .tick) = 1

/-- A playback is at rest or serves a session. -/
def Orderly (p : Playback) : Prop := p.AtRest ∨ ∃ session schedule, p.Serving session schedule

theorem Orderly.atRest_of_mode {p : Playback} (h : p.Orderly) (hstopped : p.mode = .stopped) :
    p.AtRest := by
  rcases h with h | ⟨session, schedule, h⟩
  · exact h
  · rw [h.mode] at hstopped
    simp at hstopped

/-- A playback that runs serves its session. -/
theorem Orderly.serving_of_mode {p : Playback} (h : p.Orderly) {session schedule : Token}
    (hmode : p.mode = .running session schedule) : p.Serving session schedule := by
  rcases h with h | ⟨session', schedule', h⟩
  · rw [h.mode] at hmode
    simp at hmode
  · have heq := h.mode.symm.trans hmode
    obtain ⟨rfl, rfl⟩ := Mode.running.inj heq
    exact h

theorem Orderly.serving_of_isRunning {p : Playback} (h : p.Orderly)
    (hrunning : p.isRunning = true) : ∃ session schedule, p.Serving session schedule := by
  obtain ⟨session, schedule, hmode⟩ := isRunning_eq_true_iff.1 hrunning
  exact ⟨session, schedule, h.serving_of_mode hmode⟩

/-- Only these parts of a playback matter to the session it serves. -/
theorem Serving.of_eq {p q : Playback} {session schedule : Token} (h : p.Serving session schedule)
    (hmode : q.mode = p.mode) (hlast : q.lastToken = p.lastToken) (hqueue : q.queue = p.queue)
    (hsettings : q.settings = p.settings) (hclock : q.clock = p.clock) :
    q.Serving session schedule := by
  refine ⟨?_, ?_, ?_, ?_, ?_, ?_⟩
  · rw [hmode]; exact h.mode
  · rw [hlast]; exact h.issued
  · rw [hqueue]; exact h.owner
  · rw [hqueue, hsettings]; exact h.every
  · rw [hqueue, hclock]; exact h.due
  · rw [hqueue, hclock]; exact h.oneTick

/-- A timer with the owner that its event asks for has something to do. -/
theorem Serving.answers {p : Playback} {session schedule owner : Token}
    (h : p.Serving session schedule) {event : TimedEvent}
    (howner : owner = event.ownerIn session schedule) : p.Answers owner event := by
  subst howner
  cases event <;> simp [Answers, session?, schedule?, h.mode, TimedEvent.ownerIn]

/-! ## Bubbles in the queue -/

/-- The timer of a cue. -/
def cueTimer (start : Duration) (schedule : Token) (cue : Cue) : Timer TimedEvent :=
  ⟨start + cue.time, schedule, none, .bubble cue.sprite cue.bubble⟩

/-- Queueing cues adds a timer for each of them and drops none. -/
theorem mem_queueCues {start : Duration} {schedule : Token} {cues : List Cue}
    {q : Queue TimedEvent} {t : Timer TimedEvent} :
    t ∈ (queueCues start schedule cues q).timers ↔
      t ∈ q.timers ∨ ∃ cue ∈ cues, t = cueTimer start schedule cue := by
  unfold queueCues
  induction cues generalizing q with
  | nil => simp
  | cons cue rest ih =>
    rw [List.foldl_cons, ih, Queue.mem_schedule, List.exists_mem_cons_iff]
    constructor
    · rintro ((rfl | h) | h)
      · exact Or.inr (Or.inl rfl)
      · exact Or.inl h
      · exact Or.inr (Or.inr h)
    · rintro (h | rfl | h)
      · exact Or.inl (Or.inr h)
      · exact Or.inl (Or.inl rfl)
      · exact Or.inr h

/-- Cues do not show when only other events are picked out. -/
theorem filter_queueCues_of_false {keep : Timer TimedEvent → Bool} {start : Duration}
    {schedule : Token} {cues : List Cue}
    (hkeep : ∀ cue ∈ cues, keep (cueTimer start schedule cue) = false) (q : Queue TimedEvent) :
    (queueCues start schedule cues q).timers.filter keep = q.timers.filter keep := by
  unfold queueCues
  induction cues generalizing q with
  | nil => rfl
  | cons cue rest ih =>
    rw [List.foldl_cons, ih (fun c hc => hkeep c (List.mem_cons_of_mem _ hc)),
      Queue.timers_schedule]
    exact filter_insertTimer_of_false (hkeep cue List.mem_cons_self) _

/-- The queue into which the cues of a new schedule go: what is there, without the old schedule. -/
def unscheduled (p : Playback) : Queue TimedEvent :=
  match p.mode with
  | .running _ old => p.queue.cancel old
  | .stopped => p.queue

/-- Scheduling the bubbles drops the old schedule and queues the cues of a new one. -/
theorem queue_scheduleBubbles (p : Playback) (session : Token) :
    (p.scheduleBubbles session).queue =
      queueCues p.clock p.lastToken.next (cueSheet p.seen p.settings.bubbleSeconds)
        p.unscheduled := rfl

/-- **Scheduling bubbles serves the session.** All that has to be known is that what is left of the
queue is the session's. -/
theorem serving_scheduleBubbles {p : Playback} {session : Token}
    (hissued : session.number ≤ p.lastToken.number)
    (howner : ∀ t ∈ p.unscheduled.timers, t.owner = session ∧ ∀ s b, t.event ≠ .bubble s b)
    (hevery : ∀ t ∈ p.unscheduled.timers, t.every = pace p.settings t.event)
    (hdue : ∀ t ∈ p.unscheduled.timers, p.clock ≤ t.due)
    (hone : p.clock < .longest → p.unscheduled.timers.countP (·.event = .tick) = 1) :
    (p.scheduleBubbles session).Serving session p.lastToken.next where
  mode := rfl
  issued := ⟨Nat.lt_succ_of_le hissued, le_refl _⟩
  owner := by
    intro t ht
    rcases mem_queueCues.1 ht with ht | ⟨cue, -, rfl⟩
    · obtain ⟨h, hother⟩ := howner t ht
      rw [h]
      cases he : t.event with
      | tick => rfl
      | clearHighlight => rfl
      | bubble s b => exact absurd he (hother s b)
    · rfl
  every := by
    intro t ht
    rcases mem_queueCues.1 ht with ht | ⟨cue, -, rfl⟩
    · exact hevery t ht
    · rfl
  due := by
    intro t ht
    rcases mem_queueCues.1 ht with ht | ⟨cue, -, rfl⟩
    · exact hdue t ht
    · exact Duration.le_add_right _ _
  oneTick := by
    intro hclock
    rw [queue_scheduleBubbles, List.countP_eq_length_filter,
      filter_queueCues_of_false (by intro cue _; simp [cueTimer]), ← List.countP_eq_length_filter]
    exact hone hclock

theorem mem_of_mem_unscheduled {p : Playback} {t : Timer TimedEvent}
    (ht : t ∈ p.unscheduled.timers) : t ∈ p.queue.timers := by
  unfold unscheduled at ht
  split at ht
  · exact (Queue.mem_cancel.1 ht).1
  · exact ht

/-- What goes with a schedule are the bubbles, for all else belongs to the session. -/
theorem Serving.timers_unscheduled {p : Playback} {session schedule : Token}
    (h : p.Serving session schedule) :
    p.unscheduled.timers = p.queue.timers.filter fun t => !t.event.isBubble := by
  have hne : session ≠ schedule := by
    rintro rfl
    exact absurd h.issued.1 (lt_irrefl _)
  unfold unscheduled
  rw [h.mode]
  apply List.filter_congr
  intro t ht
  have howner := h.owner t ht
  cases he : t.event with
  | bubble sprite bubble =>
    rw [he] at howner
    simp [TimedEvent.isBubble, show t.owner = schedule from howner]
  | _ =>
    rw [he] at howner
    simp [TimedEvent.isBubble, show t.owner = session from howner, hne]

/-- A new schedule of the session that is on takes the place of the old one. -/
theorem Serving.reschedule {p : Playback} {session schedule : Token}
    (h : p.Serving session schedule) :
    (p.scheduleBubbles session).Serving session p.lastToken.next := by
  refine serving_scheduleBubbles ?_ ?_ ?_ ?_ ?_
  · have := h.issued
    omega
  · intro t ht
    rw [h.timers_unscheduled, List.mem_filter] at ht
    have howner := h.owner t ht.1
    cases he : t.event with
    | tick => rw [he] at howner; exact ⟨howner, by simp⟩
    | clearHighlight => rw [he] at howner; exact ⟨howner, by simp⟩
    | bubble s b => simp [he, TimedEvent.isBubble] at ht
  · exact fun t ht => h.every t (mem_of_mem_unscheduled ht)
  · exact fun t ht => h.due t (mem_of_mem_unscheduled ht)
  · -- no tick goes with the bubbles
    intro hclock
    rw [h.timers_unscheduled, List.countP_filter, ← h.oneTick hclock]
    apply List.countP_congr
    intro t _
    cases t.event <;> simp [TimedEvent.isBubble]

/-! ## What calls keep -/

/-- Taking notice of other sprites leaves a playback at rest: newcomers say nothing. -/
theorem AtRest.noticed {p : Playback} (h : p.AtRest) (sprites : List Sprite) :
    (p.noticed sprites).AtRest := by
  refine ⟨h.mode, h.timers, ?_, ?_⟩
  · intro id a ha
    have hget : (sprites.find? (·.id = id)).map (fun s => (p.cast.get? id).getD (.home s)) =
        some a := by
      rw [← ha]
      exact (Cast.get?_reconcile p.cast sprites id).symm
    obtain ⟨s, -, rfl⟩ := Option.map_eq_some_iff.1 hget
    cases hget : p.cast.get? id with
    | none => rfl
    | some a => exact h.bubbles id a hget
  · show p.highlighted.filter _ = none
    rw [h.highlighted]
    rfl

/-- Taking notice of other sprites leaves the timers of a session alone. -/
theorem Serving.noticed {p : Playback} {session schedule : Token} (h : p.Serving session schedule)
    (sprites : List Sprite) : (p.noticed sprites).Serving session schedule :=
  h.of_eq rfl rfl rfl rfl rfl

theorem Orderly.sync {p : Playback} (h : p.Orderly) (sprites : List Sprite) :
    (p.sync sprites).Orderly := by
  apply sync_cases
  · intro _
    exact h
  · intro hstopped
    exact Or.inl ((h.atRest_of_mode hstopped).noticed sprites)
  · intro session schedule hmode
    exact Or.inr ⟨session, _, ((h.serving_of_mode hmode).noticed sprites).reschedule⟩

/-- From rest a session begins, with two new tokens. -/
theorem AtRest.start {p : Playback} (h : p.AtRest) :
    p.start.Serving p.lastToken.next p.lastToken.next.next := by
  -- the only timer so far is the first tick
  have hmem : ∀ t ∈ insertTimer (⟨p.clock + p.settings.tickInterval, p.lastToken.next,
      some p.settings.tickInterval, .tick⟩ : Timer TimedEvent) p.queue.timers,
      t = ⟨p.clock + p.settings.tickInterval, p.lastToken.next,
        some p.settings.tickInterval, .tick⟩ := by
    intro t ht
    rw [h.timers] at ht
    simpa [insertTimer] using ht
  unfold Playback.start
  refine serving_scheduleBubbles (le_refl _) ?_ ?_ ?_ ?_ <;>
    simp only [unscheduled, h.mode, Queue.timers_scheduleRepeating]
  · intro t ht
    rw [hmem t ht]
    exact ⟨rfl, by simp⟩
  · intro t ht
    rw [hmem t ht]
    rfl
  · intro t ht
    rw [hmem t ht]
    exact Duration.le_add_right _ _
  · intro _
    rw [h.timers]
    rfl

/-- When a session ends, nothing is left of it. -/
theorem Serving.stop {p : Playback} {session schedule : Token} (h : p.Serving session schedule) :
    p.stop.AtRest := by
  unfold Playback.stop
  rw [h.mode]
  refine ⟨rfl, ?_, ?_, rfl⟩
  · -- every owner is one of the two tokens that are cancelled
    show ((p.queue.cancel session).cancel schedule).timers = []
    rw [Queue.timers_cancel, Queue.timers_cancel, List.filter_filter, List.filter_eq_nil_iff]
    intro t ht
    have howner := h.owner t ht
    cases he : t.event <;> rw [he] at howner <;> simp [TimedEvent.ownerIn] at howner <;>
      simp [howner]
  · intro id a ha
    rw [Cast.get?_clearBubbles] at ha
    obtain ⟨b, -, rfl⟩ := Option.map_eq_some_iff.1 ha
    rfl

theorem Orderly.stop {p : Playback} (h : p.Orderly) : p.stop.Orderly := by
  rcases h with h | ⟨session, schedule, h⟩
  · unfold Playback.stop
    rw [h.mode]
    exact Or.inl h
  · exact Or.inl h.stop

theorem Orderly.click {p : Playback} (h : p.Orderly) (c : Click) : (p.click c).Orderly := by
  obtain ⟨stamp, hues, cast, heq, hbubbles⟩ := p.click_eq c
  rw [heq]
  rcases h with h | ⟨session, schedule, h⟩
  · refine Or.inl ⟨h.mode, h.timers, ?_, h.highlighted⟩
    intro id a ha
    have hbubble := hbubbles id
    rw [show cast.get? id = some a from ha] at hbubble
    obtain ⟨b, hb, hab⟩ := Option.map_eq_some_iff.1 hbubble.symm
    exact hab.symm.trans (h.bubbles id b hb)
  · exact Or.inr ⟨session, schedule, h.of_eq rfl rfl rfl rfl rfl⟩

/-- The time between ticks is positive. -/
theorem tickInterval_pos (s : PlaybackSettings) : 0 < s.tickInterval.nanos := by
  have hpos : 0 < (max s.tickMillis 1).toNat := by
    show 0 < (if s.tickMillis ≤ 1 then 1 else s.tickMillis).toNat
    split
    · decide
    · rename_i h
      rw [UInt64.le_iff_toNat_le] at h
      exact lt_trans Nat.zero_lt_one (Nat.lt_of_not_le h)
  exact Nat.mul_pos hpos (by decide)

/-! ## What firings keep -/

/-- Only ticks have an interval, and it is that of the settings. -/
theorem Serving.tick_of_every {p : Playback} {session schedule : Token}
    (h : p.Serving session schedule) {t : Timer TimedEvent} (ht : t ∈ p.queue.timers)
    {every : Duration} (hevery : t.every = some every) :
    t.event = .tick ∧ every = p.settings.tickInterval := by
  have hpace := h.every t ht
  rw [hevery] at hpace
  cases he : t.event with
  | tick =>
    rw [he] at hpace
    exact ⟨rfl, Option.some.inj hpace⟩
  | clearHighlight => simp [he, pace] at hpace
  | bubble sprite bubble => simp [he, pace] at hpace

/-- A tick is queued anew one interval later, as long as time has not ended. -/
theorem Serving.again?_of_tick {p : Playback} {session schedule : Token}
    (h : p.Serving session schedule) {t : Timer TimedEvent} (ht : t ∈ p.queue.timers)
    (hevent : t.event = .tick) (hdue : t.due < .longest) :
    Queue.again? t = some { t with due := t.due + p.settings.tickInterval } := by
  rw [Queue.again?_eq_some_iff]
  refine ⟨p.settings.tickInterval, ?_, (Duration.lt_add_iff (tickInterval_pos _)).2 hdue, rfl⟩
  rw [h.every t ht, hevent]
  rfl

/-- Bubbles and the end of a highlight come once. -/
theorem Serving.every_of_ne_tick {p : Playback} {session schedule : Token}
    (h : p.Serving session schedule) {t : Timer TimedEvent} (ht : t ∈ p.queue.timers)
    (hevent : t.event ≠ .tick) : t.every = none := by
  cases hevery : t.every with
  | none => rfl
  | some every => exact absurd (h.tick_of_every ht hevery).1 hevent

/-- Only ticks have a next turn. -/
theorem Serving.again?_of_ne_tick {p : Playback} {session schedule : Token}
    (h : p.Serving session schedule) {t : Timer TimedEvent} (ht : t ∈ p.queue.timers)
    (hevent : t.event ≠ .tick) : Queue.again? t = none := by
  unfold Queue.again?
  rw [h.every_of_ne_tick ht hevent]

/-- What is left after a firing that is no tick is what was pending without it. -/
theorem Serving.timers_of_popDue? {p : Playback} {session schedule : Token}
    (h : p.Serving session schedule) {target : Duration} {fired : Fired TimedEvent}
    {left : Queue TimedEvent} (hpop : p.queue.popDue? target = some (fired, left))
    (hevent : fired.event ≠ .tick) :
    p.queue.timers = ⟨fired.time, fired.owner, none, fired.event⟩ :: left.timers := by
  obtain ⟨t, rest, htimers, -, -, rfl, hleft⟩ := Queue.exists_of_popDue? hpop
  have hmem : t ∈ p.queue.timers := by rw [htimers]; exact List.mem_cons_self
  rw [h.again?_of_ne_tick hmem hevent] at hleft
  rw [htimers, hleft, ← h.every_of_ne_tick hmem hevent]

/-- What fires is due no earlier than the present time. -/
theorem Serving.clock_le_of_popDue? {p : Playback} {session schedule : Token}
    (h : p.Serving session schedule) {target : Duration} {fired : Fired TimedEvent}
    {left : Queue TimedEvent} (hpop : p.queue.popDue? target = some (fired, left)) :
    p.clock ≤ fired.time := by
  obtain ⟨t, ht, htime, -⟩ := Queue.mem_of_popDue? hpop
  rw [← htime]
  exact h.due t ht

/-- Taking out the timer that fires leaves the session served: a tick is put back in for its next
turn unless time has ended. -/
theorem Serving.taken {r : Run} {session schedule : Token}
    (h : r.playback.Serving session schedule) {target : Duration} {fired : Fired TimedEvent}
    {left : Queue TimedEvent} (hpop : r.playback.queue.popDue? target = some (fired, left)) :
    (r.taken fired left).playback.Serving session schedule where
  mode := h.mode
  issued := h.issued
  owner := by
    intro u hu
    obtain ⟨-, t, ht, howner, hevent, -⟩ := Queue.mem_left_of_popDue? hpop hu
    rw [howner, hevent]
    exact h.owner t ht
  every := by
    intro u hu
    obtain ⟨-, t, ht, -, hevent, hevery⟩ := Queue.mem_left_of_popDue? hpop hu
    rw [hevery, hevent]
    exact h.every t ht
  due := fun u hu => (Queue.mem_left_of_popDue? hpop hu).1
  oneTick := by
    intro hclock
    -- a tick that fires goes back in, and anything else is not counted
    obtain ⟨t, rest, htimers, -, -, rfl, hleft⟩ := Queue.exists_of_popDue? hpop
    have hmem : t ∈ r.playback.queue.timers := by rw [htimers]; exact List.mem_cons_self
    have hone := h.oneTick (Nat.lt_of_le_of_lt (h.due t hmem) hclock)
    rw [htimers, List.countP_cons] at hone
    show left.timers.countP _ = 1
    rw [hleft]
    by_cases hevent : t.event = .tick
    · rw [h.again?_of_tick hmem hevent hclock]
      simpa [countP_insertTimer, hevent] using hone
    · rw [h.again?_of_ne_tick hmem hevent]
      simpa [hevent] using hone

/-- Scripts that run leave the timers of a session alone. -/
theorem Serving.acted {r : Run} {session schedule : Token}
    (h : r.playback.Serving session schedule) : r.acted.playback.Serving session schedule :=
  h.of_eq rfl rfl rfl rfl rfl

/-- A swap adds one timer, the end of its highlight, and it is the session that owns it. -/
theorem Serving.announced {r : Run} {session schedule : Token}
    (h : r.playback.Serving session schedule) (a b : SpriteId) :
    (r.announced session a b).Serving session schedule where
  mode := h.mode
  issued := h.issued
  owner := by
    intro t ht
    rcases Queue.mem_schedule.1 ht with rfl | ht
    · rfl
    · exact h.owner t ht
  every := by
    intro t ht
    rcases Queue.mem_schedule.1 ht with rfl | ht
    · rfl
    · exact h.every t ht
  due := by
    intro t ht
    rcases Queue.mem_schedule.1 ht with rfl | ht
    · exact Duration.le_add_right _ _
    · exact h.due t ht
  oneTick := by
    intro hclock
    show (insertTimer _ r.playback.queue.timers).countP _ = 1
    rw [countP_insertTimer, h.oneTick hclock]
    rfl

/-- After a tick the session is still in order, or a new schedule of its own is. -/
theorem Serving.tick {r : Run} {session schedule : Token}
    (h : r.playback.Serving session schedule) : (r.tick session).playback.Orderly := by
  apply Run.tick_cases (P := fun m => m.playback.Orderly)
  · exact Or.inr ⟨session, schedule, h.acted⟩
  · intro a b
    exact Orderly.sync (Or.inr ⟨session, schedule, h.acted.announced a b⟩) _

/-- What fires in a session has something to do. -/
theorem Serving.answers_fired {p : Playback} {session schedule : Token}
    (h : p.Serving session schedule) {target : Duration} {fired : Fired TimedEvent}
    {left : Queue TimedEvent} (hpop : p.queue.popDue? target = some (fired, left)) :
    p.Answers fired.owner fired.event := by
  obtain ⟨t, ht, -, howner, hevent⟩ := Queue.mem_of_popDue? hpop
  rw [← howner, ← hevent]
  exact h.answers (h.owner t ht)

/-- Nothing fires without a session. -/
theorem Orderly.serving_of_popDue? {p : Playback} (h : p.Orderly) {target : Duration}
    {fired : Fired TimedEvent} {left : Queue TimedEvent}
    (hpop : p.queue.popDue? target = some (fired, left)) :
    ∃ session schedule, p.Serving session schedule := by
  rcases h with h | h
  · obtain ⟨t, ht, -⟩ := Queue.mem_of_popDue? hpop
    rw [h.timers] at ht
    exact absurd ht List.not_mem_nil
  · exact h

/-- **What a firing does in a session.** What the event asks for is done, for the timer has an owner
that is on. -/
theorem Serving.firedBy_cases {r : Run} {session schedule : Token}
    (h : r.playback.Serving session schedule) {target : Duration} {fired : Fired TimedEvent}
    {left : Queue TimedEvent} (hpop : r.playback.queue.popDue? target = some (fired, left))
    {P : Run → Prop} (htick : fired.event = .tick → P ((r.taken fired left).tick session))
    (hclear : fired.event = .clearHighlight → P (r.taken fired left).unhighlighted)
    (hbubble : ∀ sprite bubble, fired.event = .bubble sprite bubble →
      P ((r.taken fired left).withBubble sprite bubble)) : P (r.firedBy fired left) := by
  have hanswers := h.answers_fired hpop
  cases he : fired.event with
  | tick =>
    rw [he] at hanswers
    have hsession : session = fired.owner := by
      simpa [Answers, session?, h.mode] using hanswers
    rw [Run.firedBy_tick hanswers he, ← hsession]
    exact htick he
  | clearHighlight =>
    rw [he] at hanswers
    rw [Run.firedBy_clearHighlight hanswers he]
    exact hclear he
  | bubble sprite bubble =>
    rw [he] at hanswers
    rw [Run.firedBy_bubble hanswers he]
    exact hbubble sprite bubble he

/-- **What two firings of one event do** in two sessions, whoever owns the timers. -/
theorem Serving.firedBy_both {r r' : Run} {session schedule session' schedule' : Token}
    (h : r.playback.Serving session schedule) (h' : r'.playback.Serving session' schedule')
    {target target' : Duration} {fired fired' : Fired TimedEvent} {left left' : Queue TimedEvent}
    (hpop : r.playback.queue.popDue? target = some (fired, left))
    (hpop' : r'.playback.queue.popDue? target' = some (fired', left'))
    (hevent : fired'.event = fired.event) {P : Run → Run → Prop}
    (htick : fired.event = .tick →
      P ((r.taken fired left).tick session) ((r'.taken fired' left').tick session'))
    (hclear : fired.event = .clearHighlight →
      P (r.taken fired left).unhighlighted (r'.taken fired' left').unhighlighted)
    (hbubble : ∀ sprite bubble, fired.event = .bubble sprite bubble →
      P ((r.taken fired left).withBubble sprite bubble)
        ((r'.taken fired' left').withBubble sprite bubble)) :
    P (r.firedBy fired left) (r'.firedBy fired' left') := by
  apply h.firedBy_cases hpop (P := fun m => P m (r'.firedBy fired' left'))
  · intro he
    apply h'.firedBy_cases hpop' (P := P _)
    · intro _
      exact htick he
    · intro he'
      simp [he, he'] at hevent
    · intro sprite bubble he'
      simp [he, he'] at hevent
  · intro he
    apply h'.firedBy_cases hpop' (P := P _)
    · intro he'
      simp [he, he'] at hevent
    · intro _
      exact hclear he
    · intro sprite bubble he'
      simp [he, he'] at hevent
  · intro sprite bubble he
    apply h'.firedBy_cases hpop' (P := P _)
    · intro he'
      simp [he, he'] at hevent
    · intro he'
      simp [he, he'] at hevent
    · intro sprite' bubble' he'
      rw [he, he'] at hevent
      obtain ⟨rfl, rfl⟩ := TimedEvent.bubble.inj hevent
      exact hbubble _ _ he

theorem Orderly.firedBy {r : Run} (h : r.playback.Orderly) {target : Duration}
    {fired : Fired TimedEvent} {left : Queue TimedEvent}
    (hpop : r.playback.queue.popDue? target = some (fired, left)) :
    (r.firedBy fired left).playback.Orderly := by
  obtain ⟨session, schedule, h⟩ := h.serving_of_popDue? hpop
  have htaken := h.taken hpop
  apply h.firedBy_cases hpop (P := fun m => m.playback.Orderly)
  · intro _
    exact htaken.tick
  · intro _
    exact Or.inr ⟨session, schedule, htaken.of_eq rfl rfl rfl rfl rfl⟩
  · intro sprite bubble _
    exact Or.inr ⟨session, schedule, htaken.of_eq rfl rfl rfl rfl rfl⟩

/-- When nothing is due any more, the clock may move on. -/
theorem Orderly.arrive {p : Playback} (h : p.Orderly) {target : Duration}
    (hclock : p.clock ≤ target) (hpop : p.queue.popDue? target = none) :
    Orderly { p with clock := target } := by
  rcases h with h | ⟨session, schedule, h⟩
  · exact Or.inl ⟨h.mode, h.timers, h.bubbles, h.highlighted⟩
  · refine Or.inr ⟨session, schedule, h.mode, h.issued, h.owner, h.every, ?_, ?_⟩
    · intro t ht
      exact Nat.le_of_lt (Queue.popDue?_eq_none_iff.1 hpop t ht)
    · exact fun hlt => h.oneTick (Nat.lt_of_le_of_lt hclock hlt)

end Playback

/-! ## All reachable runs -/

namespace Run

/-- Every call and every firing leaves a playback at rest or in the service of a session. -/
theorem invariant_orderly : Invariant fun r => r.playback.Orderly where
  fresh := fun _ _ _ => Or.inl ⟨rfl, rfl, (fun _ _ ha => nomatch ha), rfl⟩
  edit := fun h _ => h
  resize := by
    rintro r (h | ⟨session, schedule, h⟩) v
    · exact Or.inl ⟨h.mode, h.timers, h.bubbles, h.highlighted⟩
    · exact Or.inr ⟨session, schedule, h.of_eq rfl rfl rfl rfl rfl⟩
  sync := fun h => h.sync _
  start := fun h hstopped => Or.inr ⟨_, _, (h.atRest_of_mode hstopped).start⟩
  stop := fun h => h.stop
  click := fun h c => h.click c
  fire := fun h hpop => h.firedBy hpop
  arrive := fun h hclock hpop => h.arrive hclock hpop

/-- **No timer outlives its owner.** A stopped playback has neither tokens nor timers, bubbles or a
highlight. In a session both tokens are there and differ, every pending timer belongs to the one
that its event asks for and is not overdue, and exactly one tick is pending until time ends. So
whatever fires while time passes has something to do. -/
theorem timers_belong_to_session {r : Run} (h : Reachable r) :
    (r.playback.isRunning = false →
      r.playback.session? = none ∧ r.playback.schedule? = none ∧
        r.playback.queue.timers = [] ∧ r.playback.nextDeadline? = none ∧
        (∀ id a, r.playback.cast.get? id = some a → a.bubble = none) ∧
        r.playback.highlighted = none) ∧
    (r.playback.isRunning = true →
      ∃ session schedule, r.playback.session? = some session ∧
        r.playback.schedule? = some schedule ∧ session ≠ schedule ∧
        (∀ t ∈ r.playback.queue.timers, t.owner = t.event.ownerIn session schedule) ∧
        (∀ t ∈ r.playback.queue.timers, r.playback.clock ≤ t.due) ∧
        (r.playback.clock < .longest →
          r.playback.queue.timers.countP (·.event = .tick) = 1)) ∧
    ∀ dt, ∀ m ∈ r.moments dt, ∀ fired left,
      m.playback.queue.popDue? (r.playback.clock + dt) = some (fired, left) →
        m.playback.Answers fired.owner fired.event := by
  have horderly := invariant_orderly.reachable h
  refine ⟨?_, ?_, ?_⟩
  · intro hstopped
    rw [Playback.isRunning_eq_false_iff] at hstopped
    have hrest := horderly.atRest_of_mode hstopped
    refine ⟨?_, ?_, hrest.timers, ?_, hrest.bubbles, hrest.highlighted⟩
    · simp only [Playback.session?, hstopped]
    · simp only [Playback.schedule?, hstopped]
    · rw [Playback.nextDeadline?, Queue.nextDue?_eq_none_iff.2 hrest.timers]
      rfl
  · intro hrunning
    obtain ⟨session, schedule, hserving⟩ := horderly.serving_of_isRunning hrunning
    refine ⟨session, schedule, ?_, ?_, ?_, hserving.owner, hserving.due, hserving.oneTick⟩
    · simp only [Playback.session?, hserving.mode]
    · simp only [Playback.schedule?, hserving.mode]
    · rintro rfl
      exact absurd hserving.issued.1 (lt_irrefl _)
  · intro dt m hm fired left hpop
    obtain ⟨session, schedule, hserving⟩ :=
      (invariant_orderly.moments horderly dt m hm).serving_of_popDue? hpop
    exact hserving.answers_fired hpop

/-- A session on the starter program, after a tick: it is served, and nothing fires in vain. -/
theorem timers_belong_to_session_starter :
    let r := ((fresh {} 7 .starter).call .play).call (.advance (.ofMillis 700))
    Reachable r ∧ r.playback.isRunning = true ∧
      (∃ session schedule, session ≠ schedule ∧
        ∀ t ∈ r.playback.queue.timers, t.owner = t.event.ownerIn session schedule) ∧
      ∀ dt, ∀ m ∈ r.moments dt, ∀ fired left,
        m.playback.queue.popDue? (r.playback.clock + dt) = some (fired, left) →
          m.playback.Answers fired.owner fired.event := by
  have h : Reachable (((fresh {} 7 .starter).call .play).call (.advance (.ofMillis 700))) :=
    ((Reachable.fresh _ _ _).call _).call _
  have hrunning := isRunning_advance ((fresh {} 7 .starter).call .play) (.ofMillis 700)
  obtain ⟨-, hserved, hanswers⟩ := timers_belong_to_session h
  obtain ⟨session, schedule, -, -, hne, howner, -⟩ := hserved hrunning
  exact ⟨h, hrunning, ⟨session, schedule, hne, howner⟩, hanswers⟩

/-! ## How long tokens last -/

/-- A look at the program takes a token at most, for a new schedule in a session. -/
theorem lastToken_sync_le (p : Playback) (sprites : List Sprite) :
    (p.sync sprites).lastToken.number ≤
      p.lastToken.number + if p.isRunning then 1 else 0 := by
  apply Playback.sync_cases
    (P := fun q => q.lastToken.number ≤ p.lastToken.number + if p.isRunning then 1 else 0)
  · intro _
    exact Nat.le_add_right _ _
  · intro _
    exact Nat.le_add_right _ _
  · intro session schedule hmode
    rw [if_pos (Playback.isRunning_eq_true_iff.2 ⟨session, schedule, hmode⟩)]
    exact Nat.le_refl _

/-- A tick takes a token only for a swap, and a session has one swap. -/
theorem lastToken_tick_le (r : Run) (session : Token) :
    (r.tick session).playback.lastToken.number + swapsLeft (r.tick session).playback ≤
      r.playback.lastToken.number + swapsLeft r.playback := by
  rw [tick_eq]
  split
  · exact Nat.le_refl _
  · rename_i hopen
    split
    · rename_i a b _
      have hleft : swapsLeft r.playback = 1 := if_neg hopen
      have hnone : swapsLeft (r.acted.swap session a b).playback = 0 :=
        if_pos (swapLocked_swap _ _ _ _)
      have hsync := lastToken_sync_le (r.acted.announced session a b)
        (r.acted.program.swapScripts a b).sprites
      rw [hleft, hnone, swap_eq]
      refine Nat.le_trans hsync (Nat.add_le_add_left ?_ _)
      split <;> omega
    · exact Nat.le_refl _

/-- Of all that fires only a tick can take a token. -/
theorem lastToken_firedBy_le (r : Run) (fired : Fired TimedEvent) (left : Queue TimedEvent) :
    (r.firedBy fired left).playback.lastToken.number + swapsLeft (r.firedBy fired left).playback ≤
      r.playback.lastToken.number + swapsLeft r.playback := by
  apply firedBy_cases (P := fun m => m.playback.lastToken.number + swapsLeft m.playback ≤
    r.playback.lastToken.number + swapsLeft r.playback)
  · exact Nat.le_refl _
  · exact lastToken_tick_le (r.taken fired left) fired.owner
  · exact Nat.le_refl _
  · intro sprite bubble
    exact Nat.le_refl _

/-- Through a drain there is one token at most, that of the one swap. -/
theorem lastToken_drain_le (target : Duration) (r : Run) :
    (drain target r).playback.lastToken.number ≤ r.playback.lastToken.number + 1 := by
  have hdrain : (drain target r).playback.lastToken.number +
      swapsLeft (drain target r).playback ≤ r.playback.lastToken.number + swapsLeft r.playback := by
    refine forall_drain (P := fun m => m.playback.lastToken.number + swapsLeft m.playback ≤
      r.playback.lastToken.number + swapsLeft r.playback) ?_ (Nat.le_refl _)
    intro m fired left hm _
    exact Nat.le_trans (lastToken_firedBy_le m fired left) hm
  have hone : swapsLeft r.playback ≤ 1 := by
    unfold swapsLeft
    split <;> omega
  omega

/-- No call takes more than two tokens. -/
theorem lastToken_call_le (r : Run) (c : Call) :
    (r.call c).playback.lastToken.number ≤ r.playback.lastToken.number + 2 := by
  have hsync := lastToken_sync_le r.playback r.program.sprites
  have hplay : r.play.playback.lastToken.number ≤ r.playback.lastToken.number + 2 := by
    unfold play
    split
    · exact Nat.le_add_right _ _
    · -- no session is on, so the look at the program takes none
      rename_i hstopped
      rw [if_neg hstopped] at hsync
      exact Nat.add_le_add_right hsync 2
  have hstop : r.stop.playback.lastToken.number ≤ r.playback.lastToken.number + 2 := by
    show r.playback.stop.lastToken.number ≤ _
    unfold Playback.stop
    split <;> exact Nat.le_add_right _ _
  have hlook : r.sync.playback.lastToken.number ≤ r.playback.lastToken.number + 1 := by
    refine Nat.le_trans hsync (Nat.add_le_add_left ?_ _)
    split <;> omega
  cases c with
  | edit program => exact Nat.le_add_right _ _
  | resize viewport => exact Nat.le_add_right _ _
  | sync => exact Nat.le_succ_of_le hlook
  | play => exact hplay
  | stop => exact hstop
  | setPlaying on =>
    cases on with
    | false => exact hstop
    | true => exact hplay
  | advance dt =>
    have hdrain := lastToken_drain_le (r.playback.clock + dt) r.sync
    show (drain (r.playback.clock + dt) r.sync).playback.lastToken.number ≤ _
    omega
  | click c =>
    show (r.playback.click c).lastToken.number ≤ _
    unfold Playback.click
    split
    · exact Nat.le_add_right _ _
    · dsimp only
      split <;> exact Nat.le_add_right _ _

/-- **Tokens last.** After any calls no more than two tokens a call have been issued. So numbers of
64 bits would not come round before `2 ^ 63` calls. -/
theorem lastToken_after_le (r : Run) (calls : List Call) :
    (r.after calls).playback.lastToken.number ≤
      r.playback.lastToken.number + 2 * calls.length := by
  induction calls generalizing r with
  | nil => exact Nat.le_refl _
  | cons c rest ih =>
    have hcall := lastToken_call_le r c
    have hrest := ih (r.call c)
    rw [List.length_cons]
    show ((r.call c).after rest).playback.lastToken.number ≤ _
    omega

end Run

end SpriteStage
