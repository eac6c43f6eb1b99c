import SpriteStage.Proofs.Muting

/-!
# The agenda of a session

The timers of two sessions are due at other times and have other owners. Seen from the beginning of
its session, a timer is due after some time, and it does not matter who owns it. The `agenda` of a
session are its timers seen like this, as far as a span of time reaches in which the clock does not
come to its end. What is queued for some time later enters the agenda at its place
(`agenda_insertTimer`, `agenda_queueCues`), and what fires first is what is first on the agenda
(`Serving.agenda_of_popDue?`, `Serving.popDue?_of_agenda`).
-/

namespace SpriteStage

/-- What is to fire in a span of time from the start of a session, with the time from there, whoever
owns it. -/
def agenda (start : Duration) (span : ℕ) (timers : List (Timer TimedEvent)) :
    List (Timer TimedEvent) :=
  (timers.filter fun t => t.due.nanos ≤ start.nanos + span).map
    fun t => ⟨t.due - start, ⟨0⟩, t.every, t.event⟩

/-- The agenda with one more event, if its time is in the span. -/
def enter (span due : ℕ) (every : Option Duration) (event : TimedEvent)
    (plan : List (Timer TimedEvent)) : List (Timer TimedEvent) :=
  if due ≤ span then insertTimer ⟨.ofNanos due, ⟨0⟩, every, event⟩ plan else plan

/-- The agenda with the cues of a schedule that begins some time after the start. -/
def enterCues (span since : ℕ) (cues : List Cue) (plan : List (Timer TimedEvent)) :
    List (Timer TimedEvent) :=
  cues.foldl (fun plan cue => enter span (since + cue.time.nanos) none
    (.bubble cue.sprite cue.bubble) plan) plan

variable {start clock : Duration} {span since : ℕ} {timers : List (Timer TimedEvent)}

/-- On the agenda are the timers that are due within the span, with the time until then. -/
theorem mem_agenda {u : Timer TimedEvent} :
    u ∈ agenda start span timers ↔
      ∃ t ∈ timers, t.due.nanos ≤ start.nanos + span ∧
        u = ⟨t.due - start, ⟨0⟩, t.every, t.event⟩ := by
  unfold agenda
  simp [List.mem_map, List.mem_filter, and_assoc, eq_comm]

/-- Timers that are picked out by their events are picked out on the agenda. -/
theorem agenda_filter (keep : TimedEvent → Bool) (timers : List (Timer TimedEvent)) :
    agenda start span (timers.filter fun t => keep t.event) =
      (agenda start span timers).filter fun t => keep t.event := by
  unfold agenda
  rw [List.filter_map, List.filter_filter, List.filter_filter]
  congr 1
  apply List.filter_congr
  intro t _
  exact Bool.and_comm _ _

/-- **What is queued enters the agenda**, at the time from the start until now and as long again as
it has to wait. -/
theorem agenda_insertTimer (hclock : clock.nanos = start.nanos + since)
    (hspan : start.nanos + span < Duration.longest.nanos) (order : InOrder timers)
    (wait : Duration) (owner : Token) (every : Option Duration) (event : TimedEvent) :
    agenda start span (insertTimer ⟨clock + wait, owner, every, event⟩ timers) =
      enter span (since + wait.nanos) every event (agenda start span timers) := by
  have hdue : (clock + wait).nanos = min (start.nanos + (since + wait.nanos))
      (Duration.limit - 1) := by
    rw [Duration.nanos_add, hclock, Nat.add_assoc]
  rw [Duration.nanos_longest] at hspan
  unfold enter agenda
  split
  · rename_i hin
    have hnanos : (clock + wait).nanos = start.nanos + (since + wait.nanos) := by omega
    have hseen : clock + wait - start = .ofNanos (since + wait.nanos) := by
      apply Duration.eq_of_nanos
      rw [Duration.nanos_ofNanos]
      show (clock + wait).nanos - start.nanos = _
      omega
    rw [filter_insertTimer_of_true (by simp; omega) order, map_insertTimer, hseen]
    intro u _
    show u.due.nanos - start.nanos ≤ (clock + wait).nanos - start.nanos ↔
      u.due.nanos ≤ (clock + wait).nanos
    omega
  · rw [filter_insertTimer_of_false]
    simp
    omega

/-- The cues of a schedule enter the agenda, one after the other. -/
theorem agenda_queueCues (hclock : clock.nanos = start.nanos + since)
    (hspan : start.nanos + span < Duration.longest.nanos) (schedule : Token) (cues : List Cue)
    (q : Queue TimedEvent) :
    agenda start span (Playback.queueCues clock schedule cues q).timers =
      enterCues span since cues (agenda start span q.timers) := by
  unfold Playback.queueCues enterCues
  induction cues generalizing q with
  | nil => rfl
  | cons cue rest ih =>
    rw [List.foldl_cons, List.foldl_cons, ih, Queue.timers_schedule,
      agenda_insertTimer hclock hspan q.inOrder]

namespace Playback

variable {p p' : Playback} {start' target target' : Duration} {upTo : ℕ}
  {session schedule session' schedule' : Token}
  {fired : Fired TimedEvent} {left : Queue TimedEvent}

/-! ## Schedules -/

/-- When other sprites are seen, their bubbles take the place of the old ones on the agenda. -/
theorem Serving.agenda_noticed (h : p.Serving session schedule)
    (hclock : p.clock.nanos = start.nanos + since)
    (hspan : start.nanos + span < Duration.longest.nanos) (sprites : List Sprite) :
    agenda start span ((p.noticed sprites).scheduleBubbles session).queue.timers =
      enterCues span since (cueSheet sprites p.settings.bubbleSeconds)
        ((agenda start span p.queue.timers).filter fun t => !t.event.isBubble) := by
  have hnoticed : (p.noticed sprites).clock.nanos = start.nanos + since := hclock
  rw [queue_scheduleBubbles, agenda_queueCues hnoticed hspan,
    (h.noticed sprites).timers_unscheduled, agenda_filter fun e => !e.isBubble]
  rfl

/-- On the agenda of a session that begins are its first tick and its bubbles. -/
theorem AtRest.agenda_start (h : p.AtRest)
    (hspan : p.clock.nanos + span < Duration.longest.nanos) :
    agenda p.clock span p.start.queue.timers =
      enterCues span 0 (cueSheet p.seen p.settings.bubbleSeconds)
        (enter span p.settings.tickInterval.nanos (some p.settings.tickInterval) .tick []) := by
  have hnone : agenda p.clock span p.queue.timers = [] := by
    rw [h.timers]
    rfl
  have hnow : p.clock.nanos = p.clock.nanos + 0 := rfl
  have htick := agenda_insertTimer hnow hspan p.queue.inOrder p.settings.tickInterval
    p.lastToken.next (some p.settings.tickInterval) .tick
  rw [hnone, Nat.zero_add] at htick
  unfold Playback.start
  rw [queue_scheduleBubbles, agenda_queueCues hnow hspan]
  simp only [unscheduled, h.mode, Queue.timers_scheduleRepeating]
  rw [htick]

/-! ## Firings -/

/-- Nothing fires by a time exactly if nothing on the agenda is up by then. -/
theorem popDue?_eq_none_iff_agenda (htarget : target.nanos = start.nanos + upTo)
    (hupTo : upTo ≤ span) :
    p.queue.popDue? target = none ↔
      ∀ t ∈ agenda start span p.queue.timers, upTo < t.due.nanos := by
  rw [Queue.popDue?_eq_none_iff]
  constructor
  · intro h u hu
    obtain ⟨t, ht, -, rfl⟩ := mem_agenda.1 hu
    have hlater : target.nanos < t.due.nanos := h t ht
    show upTo < t.due.nanos - start.nanos
    omega
  · intro h t ht
    show target.nanos < t.due.nanos
    by_cases hin : t.due.nanos ≤ start.nanos + span
    · have hlater : upTo < t.due.nanos - start.nanos := h _ (mem_agenda.2 ⟨t, ht, hin, rfl⟩)
      omega
    · omega

/-- **What fires is first on the agenda**, and what repeats enters it again for its next turn. -/
theorem Serving.agenda_of_popDue? (h : p.Serving session schedule)
    (hstart : start ≤ p.clock) (hspan : start.nanos + span < Duration.longest.nanos)
    (htarget : target.nanos = start.nanos + upTo) (hupTo : upTo ≤ span)
    (hpop : p.queue.popDue? target = some (fired, left)) :
    ∃ t rest, agenda start span p.queue.timers = t :: rest ∧ t.due.nanos ≤ upTo ∧
      fired.time.nanos = start.nanos + t.due.nanos ∧ fired.event = t.event ∧
      agenda start span left.timers = match t.every with
        | none => rest
        | some every => enter span (t.due.nanos + every.nanos) (some every) t.event rest := by
  obtain ⟨t, rest, htimers, -, hdue, rfl, hleft⟩ := Queue.exists_of_popDue? hpop
  have hmem : t ∈ p.queue.timers := by
    rw [htimers]
    exact List.mem_cons_self
  have horder : InOrder rest := by
    have horder := p.queue.inOrder
    rw [htimers] at horder
    exact (List.pairwise_cons.1 horder).2
  have hafter : start.nanos ≤ t.due.nanos := Nat.le_trans hstart (h.due t hmem)
  have hby : t.due.nanos ≤ target.nanos := hdue
  have hnanos : (t.due - start).nanos = t.due.nanos - start.nanos := rfl
  refine ⟨⟨t.due - start, ⟨0⟩, t.every, t.event⟩, agenda start span rest, ?_, ?_, ?_, rfl, ?_⟩
  · rw [htimers, agenda, List.filter_cons_of_pos (by simp; omega)]
    rfl
  · show (t.due - start).nanos ≤ upTo
    omega
  · show t.due.nanos = start.nanos + (t.due - start).nanos
    omega
  · rw [hleft]
    cases hevery : t.every with
    | none =>
      have hnone : Queue.again? t = none := by
        unfold Queue.again?
        rw [hevery]
      rw [hnone]
    | some every =>
      -- a tick has a next turn, for time has not come to its end
      obtain ⟨htick, hturn⟩ := h.tick_of_every hmem hevery
      have hagain := h.again?_of_tick hmem htick (by rw [Duration.lt_iff]; omega)
      rw [hagain, ← hturn]
      have hsince : t.due.nanos = start.nanos + (t.due - start).nanos := by omega
      obtain ⟨due, owner, every', event⟩ := t
      obtain rfl : every' = some every := hevery
      exact agenda_insertTimer hsince hspan horder every owner (some every) event

/-- **The same fires on the same agenda**, as long after the start of the one session as of the
other, and the agenda is still the same. -/
theorem Serving.popDue?_of_agenda (h : p.Serving session schedule)
    (h' : p'.Serving session' schedule') (hstart : start ≤ p.clock) (hstart' : start' ≤ p'.clock)
    (hspan : start.nanos + span < Duration.longest.nanos)
    (hspan' : start'.nanos + span < Duration.longest.nanos)
    (hsame : agenda start' span p'.queue.timers = agenda start span p.queue.timers)
    (htarget : target.nanos = start.nanos + upTo) (htarget' : target'.nanos = start'.nanos + upTo)
    (hupTo : upTo ≤ span) (hpop : p.queue.popDue? target = some (fired, left)) :
    ∃ fired' left', p'.queue.popDue? target' = some (fired', left') ∧
      fired'.event = fired.event ∧
      (∃ since, fired.time.nanos = start.nanos + since ∧ fired'.time.nanos = start'.nanos + since) ∧
      agenda start' span left'.timers = agenda start span left.timers := by
  obtain ⟨t, rest, hplan, hby, htime, hevent, hleft⟩ :=
    h.agenda_of_popDue? hstart hspan htarget hupTo hpop
  have hfires : p'.queue.popDue? target' ≠ none := by
    intro hnone
    rw [popDue?_eq_none_iff_agenda htarget' hupTo, hsame, hplan] at hnone
    exact absurd hby (Nat.not_le_of_lt (hnone t List.mem_cons_self))
  obtain ⟨⟨fired', left'⟩, hpop'⟩ := Option.ne_none_iff_exists'.1 hfires
  obtain ⟨t', rest', hplan', -, htime', hevent', hleft'⟩ :=
    h'.agenda_of_popDue? hstart' hspan' htarget' hupTo hpop'
  rw [hsame, hplan] at hplan'
  obtain ⟨rfl, rfl⟩ := List.cons.inj hplan'
  exact ⟨fired', left', hpop', hevent'.trans hevent.symm, ⟨t.due.nanos, htime, htime'⟩,
    hleft'.trans hleft.symm⟩

end Playback

end SpriteStage
