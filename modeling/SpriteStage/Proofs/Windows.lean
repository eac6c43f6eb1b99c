import SpriteStage.Proofs.Speech
import SpriteStage.Proofs.Steps

/-!
# Bubbles in their windows

While a session is on, each sprite seen is somewhere in its cues: those of the past have been
carried out, the others are pending (`OnCue`). Whatever happens to a playback, it goes on with its
schedule of bubbles or begins a new one at the present time (`Proceeds`). So the schedule that is on
began when its token was new (`scheduledAt`), and after time has passed every sprite shows the
bubble whose window holds the present time, and none if there is no such window (`bubble_windows`).
-/

namespace SpriteStage

namespace Playback

/-! ## Where sprites are in their cues -/

/-- The cues of a sprite are carried out up to some point, and the rest of them is pending. -/
structure OnCue (p : Playback) (t : Duration) (schedule : Token) (s : Sprite)
    (past rest : List Cue) : Prop where
  cues : s.cues p.settings.bubbleSeconds = past ++ rest
  pending : p.queue.timers.filter (·.speaksFor s.id) = rest.map (cueTimer t schedule)
  bubble : (p.cast.get? s.id).map (·.bubble) = some (shown past)
  due : ∀ cue ∈ past, t + cue.time ≤ p.clock

/-- In a session every sprite seen is in its cues, which are counted from the time `t`. -/
def Scheduled (p : Playback) (t : Duration) : Prop :=
  ∀ schedule, p.schedule? = some schedule → (p.seen.map (·.id)).Nodup →
    ∀ s ∈ p.seen, ∃ past rest, p.OnCue t schedule s past rest

/-- From `p` to `q` time may pass, and nothing happens to bubbles. -/
structure Silent (p q : Playback) : Prop where
  schedule : q.schedule? = p.schedule?
  settings : q.settings = p.settings
  seen : q.seen = p.seen
  clock : p.clock ≤ q.clock
  pending : ∀ id, q.queue.timers.filter (·.speaksFor id) = p.queue.timers.filter (·.speaksFor id)
  bubbles : ∀ id, (q.cast.get? id).map (·.bubble) = (p.cast.get? id).map (·.bubble)

/-- From `p` to `q` the schedule goes on, or a new one begins at the time of `q`. -/
def Proceeds (p q : Playback) : Prop :=
  (q.schedule? = p.schedule? ∧ ∀ t, p.Scheduled t → q.Scheduled t) ∨
    (q.schedule? ≠ p.schedule? ∧ q.Scheduled q.clock)

variable {p q : Playback}

theorem Silent.trans {o : Playback} (h : Silent o p) (h' : Silent p q) : Silent o q where
  schedule := h'.schedule.trans h.schedule
  settings := h'.settings.trans h.settings
  seen := h'.seen.trans h.seen
  clock := Nat.le_trans h.clock h'.clock
  pending := fun id => (h'.pending id).trans (h.pending id)
  bubbles := fun id => (h'.bubbles id).trans (h.bubbles id)

/-- Where nothing happens to bubbles, they are scheduled as they were. -/
theorem Silent.scheduled (h : Silent p q) {t : Duration} (hp : p.Scheduled t) : q.Scheduled t := by
  intro schedule hschedule hids s hs
  rw [h.schedule] at hschedule
  rw [h.seen] at hids hs
  obtain ⟨past, rest, hcue⟩ := hp schedule hschedule hids s hs
  refine ⟨past, rest, ?_, ?_, ?_, ?_⟩
  · rw [h.settings]
    exact hcue.cues
  · rw [h.pending]
    exact hcue.pending
  · rw [h.bubbles]
    exact hcue.bubble
  · intro cue hmem
    exact Nat.le_trans (hcue.due cue hmem) h.clock

theorem Silent.proceeds (h : Silent p q) : Proceeds p q :=
  Or.inl ⟨h.schedule, fun _ hp => h.scheduled hp⟩

/-- After some silence a run proceeds as if there had been none. -/
theorem Silent.proceeds_of {o : Playback} (h : Silent o p) (h' : Proceeds p q) :
    Proceeds o q := by
  rcases h' with ⟨hschedule, hkeeps⟩ | ⟨hschedule, hnew⟩
  · exact Or.inl ⟨hschedule.trans h.schedule, fun t ho => hkeeps t (h.scheduled ho)⟩
  · rw [h.schedule] at hschedule
    exact Or.inr ⟨hschedule, hnew⟩

/-- Without a session nothing is scheduled. -/
theorem scheduled_of_stopped (h : p.mode = .stopped) (t : Duration) : p.Scheduled t := by
  intro schedule hschedule
  simp [schedule?, h] at hschedule

/-! ## New schedules -/

/-- **A new schedule begins now.** All cues of the sprites seen are pending, and none is past. -/
theorem scheduled_scheduleBubbles (hfollows : p.Follows) (session : Token)
    (hsilent : ∀ t ∈ p.unscheduled.timers, ∀ s b, t.event ≠ .bubble s b) :
    (p.scheduleBubbles session).Scheduled p.clock := by
  intro schedule hschedule hids s hs
  obtain rfl : p.lastToken.next = schedule := Option.some.inj hschedule
  have hids : (p.seen.map (·.id)).Nodup := hids
  have hs : s ∈ p.seen := hs
  have hnone : ∀ t ∈ p.unscheduled.timers, t.speaksFor s.id = false := by
    intro t ht
    unfold Timer.speaksFor
    cases he : t.event with
    | bubble sprite bubble => exact absurd he (hsilent t ht sprite bubble)
    | _ => rfl
  have hsheet := filter_cueSheet hids hs p.settings.bubbleSeconds
  have hsorted : (s.cues p.settings.bubbleSeconds).Pairwise fun a b => a.time ≤ b.time := by
    rw [Sprite.cues_eq]
    exact pairwise_cuesFrom _ _ _
  refine ⟨[], s.cues p.settings.bubbleSeconds, rfl, ?_, ?_, fun _ hmem => nomatch hmem⟩
  · show (queueCues p.clock p.lastToken.next (cueSheet p.seen p.settings.bubbleSeconds)
      p.unscheduled).timers.filter _ = _
    rw [← hsheet] at hsorted
    rw [filter_queueCues hsorted fun t ht hspeaks => absurd hspeaks (by simp [hnone t ht]), hsheet,
      List.filter_eq_nil_iff.2 fun t ht => by simp [hnone t ht]]
    rfl
  · have hid : s.id ∈ p.cast.ids := (hfollows s.id).2 (List.mem_map_of_mem hs)
    obtain ⟨a, ha⟩ := Cast.mem_ids_iff.1 hid
    show ((p.cast.clearBubbles.get? s.id).map _) = _
    rw [Cast.get?_clearBubbles, ha]
    rfl

/-- A look at the program begins a new schedule if something is new in a session. -/
theorem Orderly.proceeds_sync (h : p.Orderly) (sprites : List Sprite) :
    Proceeds p (p.sync sprites) := by
  apply sync_cases
  · intro _
    exact Or.inl ⟨rfl, fun _ hp => hp⟩
  · intro hstopped
    exact Or.inl ⟨rfl, fun t _ => scheduled_of_stopped (p := p.noticed sprites) hstopped t⟩
  · intro session schedule hmode
    have h := h.serving_of_mode hmode
    refine Or.inr ⟨?_, ?_⟩
    · -- the token of the new schedule is greater than all issued before
      show some p.lastToken.next ≠ p.schedule?
      rw [schedule?, hmode]
      intro heq
      have hissued := h.issued.2
      rw [← Option.some.inj heq] at hissued
      exact absurd hissued (Nat.not_succ_le_self _)
    · apply scheduled_scheduleBubbles (follows_noticed p sprites)
      intro t ht s b he
      rw [(h.noticed sprites).timers_unscheduled, List.mem_filter] at ht
      simp [he, TimedEvent.isBubble] at ht

/-- A session begins with a new schedule. -/
theorem AtRest.proceeds_start (h : p.AtRest) (hfollows : p.Follows) : Proceeds p p.start := by
  refine Or.inr ⟨?_, ?_⟩
  · show some _ ≠ p.schedule?
    rw [schedule?, h.mode]
    exact Option.some_ne_none _
  · unfold Playback.start
    refine scheduled_scheduleBubbles ?_ _ ?_
    · intro id
      show id ∈ p.cast.resetRuns.ids ↔ _
      rw [Cast.ids_resetRuns]
      exact hfollows id
    · intro t ht s b
      simp only [unscheduled, h.mode, Queue.timers_scheduleRepeating, h.timers, insertTimer,
        List.mem_singleton] at ht
      rw [ht]
      simp

/-- The end of a session takes all bubbles away, so none is scheduled. -/
theorem proceeds_stop (p : Playback) : Proceeds p p.stop := by
  unfold Playback.stop
  cases hmode : p.mode with
  | stopped => exact Or.inl ⟨rfl, fun _ hp => hp⟩
  | running session schedule =>
    refine Or.inr ⟨?_, scheduled_of_stopped rfl _⟩
    show none ≠ p.schedule?
    rw [schedule?, hmode]
    exact (Option.some_ne_none _).symm

theorem silent_click (p : Playback) (c : Click) : Silent p (p.click c) := by
  obtain ⟨stamp, hues, cast, heq, hbubbles⟩ := p.click_eq c
  rw [heq]
  exact ⟨rfl, rfl, rfl, Nat.le_refl _, fun _ => rfl, hbubbles⟩

/-! ## Firings -/

variable {r : Run} {session schedule : Token} {target : Duration} {fired : Fired TimedEvent}
  {left : Queue TimedEvent}

/-- To take out a timer that is no cue is nothing to the bubbles. -/
theorem Serving.silent_taken (h : r.playback.Serving session schedule)
    (hpop : r.playback.queue.popDue? target = some (fired, left))
    (hevent : ∀ s b, fired.event ≠ .bubble s b) :
    Silent r.playback (r.taken fired left).playback := by
  refine ⟨rfl, rfl, rfl, h.clock_le_of_popDue? hpop, fun id => ?_, fun _ => rfl⟩
  apply Queue.filter_left_of_popDue? hpop
  intro t ht
  unfold Timer.speaksFor
  rw [ht]
  cases he : fired.event with
  | bubble s b => exact absurd he (hevent s b)
  | _ => rfl

theorem silent_acted (r : Run) : Silent r.playback r.acted.playback :=
  ⟨rfl, rfl, rfl, Nat.le_refl _, fun _ => rfl, fun id => Run.bubble_actAll _ _ _ id⟩

theorem silent_announced (r : Run) (session : Token) (a b : SpriteId) :
    Silent r.playback (r.announced session a b) := by
  refine ⟨rfl, rfl, rfl, Nat.le_refl _, fun id => ?_, fun _ => rfl⟩
  exact filter_insertTimer_of_false rfl _

/-- A tick goes on with the schedule, and a swap may begin a new one. -/
theorem Serving.proceeds_tick (h : r.playback.Serving session schedule) :
    Proceeds r.playback (r.tick session).playback := by
  apply Run.tick_cases (P := fun m => Proceeds r.playback m.playback)
  · exact (silent_acted r).proceeds
  · intro a b
    have horderly : Orderly (r.acted.announced session a b) :=
      Or.inr ⟨session, schedule, h.acted.announced a b⟩
    have hsilent := (silent_acted r).trans (silent_announced r.acted session a b)
    exact hsilent.proceeds_of (horderly.proceeds_sync _)

/-- A cue that is carried out goes over to the past. -/
theorem Serving.proceeds_cue (h : r.playback.Serving session schedule) {sprite : SpriteId}
    {bubble : Option Bubble} (hpop : r.playback.queue.popDue? target = some (fired, left))
    (hevent : fired.event = .bubble sprite bubble) :
    Proceeds r.playback ((r.taken fired left).withBubble sprite bubble).playback := by
  refine Or.inl ⟨rfl, fun t hp token hschedule hids s hs => ?_⟩
  obtain ⟨past, rest, hcue⟩ := hp token hschedule hids s hs
  have hclock := h.clock_le_of_popDue? hpop
  by_cases hid : sprite = s.id
  · -- the cue that fires is the first of this sprite's rest
    have htimers := h.timers_of_popDue? hpop (by rw [hevent]; simp)
    have hpending := hcue.pending
    rw [htimers, List.filter_cons_of_pos (by simpa [Timer.speaksFor, hevent] using hid)] at hpending
    cases rest with
    | nil => simp at hpending
    | cons cue rest =>
      obtain ⟨hcueTimer, hpending⟩ := List.cons.inj hpending
      have htime : fired.time = t + cue.time := congrArg Timer.due hcueTimer
      have hcueEvent : fired.event = .bubble cue.sprite cue.bubble := congrArg Timer.event hcueTimer
      rw [hevent] at hcueEvent
      obtain ⟨-, hbubble⟩ := TimedEvent.bubble.inj hcueEvent
      refine ⟨past ++ [cue], rest, ?_, hpending, ?_, ?_⟩
      · rw [List.append_assoc]
        exact hcue.cues
      · obtain ⟨a, ha, -⟩ := Option.map_eq_some_iff.1 hcue.bubble
        show ((r.playback.cast.setBubble sprite bubble).get? s.id).map _ = _
        rw [Cast.get?_setBubble, if_pos hid.symm, ha, shown_concat, hbubble]
        rfl
      · intro c hc
        rcases List.mem_append.1 hc with hc | hc
        · exact Nat.le_trans (hcue.due c hc) hclock
        · rw [List.mem_singleton.1 hc, ← htime]
          exact Nat.le_refl _
  · -- another sprite's cue is nothing to this one
    refine ⟨past, rest, hcue.cues, ?_, ?_, fun c hc => Nat.le_trans (hcue.due c hc) hclock⟩
    · rw [← hcue.pending]
      apply Queue.filter_left_of_popDue? hpop
      intro u hu
      unfold Timer.speaksFor
      rw [hu, hevent]
      exact decide_eq_false hid
    · show ((r.playback.cast.setBubble sprite bubble).get? s.id).map _ = _
      rw [Cast.get?_setBubble, if_neg (fun he => hid he.symm)]
      exact hcue.bubble

/-- Every firing is silent, lets a bubble come or go in its time, or begins a new schedule. -/
theorem Orderly.proceeds_firedBy (h : r.playback.Orderly)
    (hpop : r.playback.queue.popDue? target = some (fired, left)) :
    Proceeds r.playback (r.firedBy fired left).playback := by
  obtain ⟨session, schedule, h⟩ := h.serving_of_popDue? hpop
  apply h.firedBy_cases hpop (P := fun m => Proceeds r.playback m.playback)
  · intro hevent
    have hsilent := h.silent_taken hpop (by rw [hevent]; simp)
    exact hsilent.proceeds_of (h.taken hpop).proceeds_tick
  · intro hevent
    have hsilent := h.silent_taken hpop (by rw [hevent]; simp)
    exact Silent.proceeds ⟨hsilent.schedule, hsilent.settings, hsilent.seen, hsilent.clock,
      hsilent.pending, hsilent.bubbles⟩
  · intro sprite bubble hevent
    exact h.proceeds_cue hpop hevent

end Playback

namespace Run

/-! ## When the schedule began -/

/-- The time at which the schedule that is on last began, after runs that are passed through one
after the other: the clock of the run in which its token was new. Before them the time was `t`. -/
def scheduledAt (t : Duration) (r : Run) : List Run → Duration
  | [] => t
  | m :: rest =>
    scheduledAt (if m.playback.schedule? = r.playback.schedule? then t else m.playback.clock) m rest

/-- Along two lists of runs, the time at the end of the first one is where the second one begins. -/
theorem scheduledAt_append (t : Duration) (r : Run) (first second : List Run) :
    scheduledAt t r (first ++ second) =
      scheduledAt (scheduledAt t r first)
        ((r :: first).getLast (List.cons_ne_nil _ _)) second := by
  -- the time and the run so far both move along
  induction first generalizing t r with
  | nil => rfl
  | cons m rest ih => exact ih _ m

variable {r m : Run} {t : Duration}

/-- Whichever way a run proceeds, its bubbles are scheduled from the time that is told of it. -/
theorem scheduled_of_proceeds (h : Playback.Proceeds r.playback m.playback)
    (hr : r.playback.Scheduled t) : m.playback.Scheduled (scheduledAt t r [m]) := by
  show m.playback.Scheduled (if _ then t else m.playback.clock)
  rcases h with ⟨hschedule, hkeeps⟩ | ⟨hschedule, hnew⟩
  · rw [if_pos hschedule]
    exact hkeeps t hr
  · rw [if_neg hschedule]
    exact hnew

/-- Through a drain the bubbles are scheduled from the time that is told of its runs. -/
theorem scheduled_drain (target : Duration) (r : Run) :
    ∀ t, r.playback.Orderly → r.playback.Scheduled t →
      (drain target r).playback.Scheduled (scheduledAt t r (runsBy target r)) := by
  unfold runsBy
  induction r using drain_induction target with
  | hdone r h =>
    intro t _ hr
    rw [drain_of_none h, firings_of_none h]
    exact hr
  | hfire r fired left h ih =>
    intro t horderly hr
    rw [drain_of_some h, firings_of_some h]
    exact ih _ (horderly.firedBy h) (scheduled_of_proceeds (horderly.proceeds_firedBy h) hr)

/-- So they are when time has passed. -/
theorem scheduled_advance (horderly : r.playback.Orderly) (hr : r.playback.Scheduled t)
    (dt : Duration) :
    (r.advance dt).playback.Scheduled (scheduledAt t r (r.trail (.advance dt))) := by
  have hsync := scheduled_of_proceeds (m := r.sync) (horderly.proceeds_sync _) hr
  have hdrain := scheduled_drain (r.playback.clock + dt) r.sync _ (horderly.sync _) hsync
  -- at last the clock moves on to the target
  have hsilent : Playback.Silent (drain (r.playback.clock + dt) r.sync).playback
      (r.advance dt).playback :=
    ⟨rfl, rfl, rfl, clock_drain_sync_le r dt, fun _ => rfl, fun _ => rfl⟩
  have hlast := scheduled_of_proceeds hsilent.proceeds hdrain
  rw [trail, scheduledAt_append, moments]
  rw [← getLast_runsBy] at hlast
  exact hlast

/-- A session begins with a schedule of its own, or goes on with the one that it has. -/
theorem proceeds_play (horderly : r.playback.Orderly) (hfollows : r.playback.Follows) :
    Playback.Proceeds r.playback r.play.playback := by
  unfold play
  split
  · exact Or.inl ⟨rfl, fun _ hp => hp⟩
  · rename_i hstopped
    rw [Bool.not_eq_true, Playback.isRunning_eq_false_iff] at hstopped
    have hmode := mode_sync_of_stopped hstopped
    have hrest : r.sync.playback.AtRest := (invariant_orderly.sync horderly).atRest_of_mode hmode
    have hstart := hrest.proceeds_start (hfollows.sync _)
    have hschedule : r.sync.playback.schedule? = r.playback.schedule? := by
      simp only [Playback.schedule?, hmode, hstopped]
    rcases hstart with ⟨hsame, -⟩ | ⟨hother, hnew⟩
    · simp [Playback.schedule?, hmode, Playback.start, Playback.scheduleBubbles] at hsame
    · rw [hschedule] at hother
      exact Or.inr ⟨hother, hnew⟩

/-- Every call leaves the bubbles scheduled from the time that is told of its trail. -/
theorem scheduled_call (horderly : r.playback.Orderly) (hfollows : r.playback.Follows)
    (hr : r.playback.Scheduled t) (c : Call) :
    (r.call c).playback.Scheduled (scheduledAt t r (r.trail c)) := by
  cases c with
  | edit program => exact scheduled_of_proceeds (Or.inl ⟨rfl, fun _ hp => hp⟩) hr
  | resize viewport =>
    have hsilent : Playback.Silent r.playback (r.playback.resize viewport) :=
      ⟨rfl, rfl, rfl, Nat.le_refl _, fun _ => rfl, fun _ => rfl⟩
    exact scheduled_of_proceeds hsilent.proceeds hr
  | sync => exact scheduled_of_proceeds (horderly.proceeds_sync _) hr
  | play => exact scheduled_of_proceeds (proceeds_play horderly hfollows) hr
  | stop => exact scheduled_of_proceeds r.playback.proceeds_stop hr
  | setPlaying on =>
    cases on with
    | false => exact scheduled_of_proceeds r.playback.proceeds_stop hr
    | true => exact scheduled_of_proceeds (proceeds_play horderly hfollows) hr
  | advance dt => exact scheduled_advance horderly hr dt
  | click c => exact scheduled_of_proceeds (r.playback.silent_click c).proceeds hr

theorem getLast_trail (r : Run) (c : Call) :
    (r :: r.trail c).getLast (List.cons_ne_nil _ _) = r.call c := by
  cases c with
  | advance dt =>
    show ((r :: r.moments dt) ++ [r.advance dt]).getLast _ = _
    exact List.getLast_concat
  | _ => rfl

/-- After any calls the bubbles are scheduled from the time that is told of the history. -/
theorem scheduled_after (calls : List Call) (horderly : r.playback.Orderly)
    (hfollows : r.playback.Follows) (hr : r.playback.Scheduled t) :
    (r.after calls).playback.Scheduled (scheduledAt t r (r.history calls)) := by
  induction calls generalizing r t with
  | nil => exact hr
  | cons c rest ih =>
    rw [history, scheduledAt_append, getLast_trail]
    exact ih (invariant_orderly.call horderly c) (invariant_follows.call hfollows c)
      (scheduled_call horderly hfollows hr c)

/-! ## Bubbles after time has passed -/

/-- When time has passed, all cues that are due have been carried out. -/
theorem lt_of_mem_rest {dt : Duration} {schedule : Token} {s : Sprite} {past rest : List Cue}
    (h : (r.advance dt).playback.OnCue t schedule s past rest) :
    ∀ cue ∈ rest, (r.advance dt).playback.clock < t + cue.time := by
  intro cue hcue
  have hpop : (r.advance dt).playback.queue.popDue? (r.advance dt).playback.clock = none :=
    popDue?_drain (r.playback.clock + dt) r.sync
  have hmem : Playback.cueTimer t schedule cue ∈ (r.advance dt).playback.queue.timers := by
    refine List.mem_of_mem_filter (p := (·.speaksFor s.id)) ?_
    rw [h.pending]
    exact List.mem_map_of_mem hcue
  exact Queue.popDue?_eq_none_iff.1 hpop _ hmem

/-- **Every bubble has its window.** After any calls, the last of which lets time pass in a session,
a sprite seen shows one of its script's bubbles exactly if the clock is in that bubble's window,
counted from the time at which the schedule that is on began. If the clock is in no window it shows
none. -/
theorem bubble_windows {settings : PlaybackSettings} {seed : UInt64} {program : Program}
    {calls : List Call} {dt : Duration} {r : Run}
    (hr : r = (fresh settings seed program).after (calls ++ [.advance dt]))
    (hrunning : r.playback.isRunning = true) (hids : (r.playback.seen.map (·.id)).Nodup)
    {s : Sprite} (hs : s ∈ r.playback.seen) :
    let t₀ := scheduledAt .zero (fresh settings seed program)
      ((fresh settings seed program).history (calls ++ [.advance dt]))
    let speeches := s.script.speeches r.playback.settings.bubbleSeconds
    ∃ a, r.playback.cast.get? s.id = some a ∧
      ∀ b, a.bubble = some b ↔ ∃ i, ∃ h : i < speeches.length, speeches[i].bubble = b ∧
        t₀ + beginsAt .zero speeches i ≤ r.playback.clock ∧
        r.playback.clock < t₀ + beginsAt .zero speeches (i + 1) := by
  intro t₀ speeches
  have hfresh : Reachable (fresh settings seed program) := .fresh _ _ _
  have hscheduled : r.playback.Scheduled t₀ := by
    rw [hr]
    exact scheduled_after _ (invariant_orderly.reachable hfresh)
      (invariant_follows.reachable hfresh) (Playback.scheduled_of_stopped rfl _)
  obtain ⟨session, schedule, hmode⟩ := Playback.isRunning_eq_true_iff.1 hrunning
  have hschedule : r.playback.schedule? = some schedule := by
    rw [Playback.schedule?, hmode]
  obtain ⟨past, rest, hcue⟩ := hscheduled schedule hschedule hids s hs
  obtain ⟨a, ha, hbubble⟩ := Option.map_eq_some_iff.1 hcue.bubble
  have hrest : ∀ cue ∈ rest, r.playback.clock < t₀ + cue.time := by
    have hlast : r = ((fresh settings seed program).after calls).advance dt := by
      rw [hr, after, List.foldl_append]
      rfl
    rw [hlast] at hcue ⊢
    exact lt_of_mem_rest hcue
  refine ⟨a, ha, fun b => ?_⟩
  have hcues := hcue.cues
  rw [Sprite.cues_eq] at hcues
  rw [hbubble]
  exact shown_eq_some_iff hcues hcue.due hrest b

/-- A session on the program of two sprites that meet, some time after they have swapped. -/
theorem bubble_windows_encounter :
    let first := fresh {} 7 .encounter
    let r := first.after [.play, .advance (.ofMillis 700)]
    let t₀ := scheduledAt .zero first (first.history [.play, .advance (.ofMillis 700)])
    (r.playback.isRunning = true ∧ (r.playback.seen.map (·.id)).Nodup) ∧
      ∃ s ∈ r.playback.seen, s.id = ⟨1⟩ ∧
        ∃ a, r.playback.cast.get? s.id = some a ∧
          ∀ b, a.bubble = some b ↔
            ∃ i, ∃ h : i < (s.script.speeches r.playback.settings.bubbleSeconds).length,
              (s.script.speeches r.playback.settings.bubbleSeconds)[i].bubble = b ∧
                t₀ + beginsAt .zero (s.script.speeches r.playback.settings.bubbleSeconds) i ≤
                  r.playback.clock ∧
                r.playback.clock < t₀ +
                  beginsAt .zero (s.script.speeches r.playback.settings.bubbleSeconds) (i + 1) := by
  intro first r t₀
  have hrunning : r.playback.isRunning = true := isRunning_advance (first.call .play) _
  have hplay : Staged (first.call .play) :=
    ⟨by decide, invariant_follows.reachable ((Reachable.fresh _ _ _).call _), rfl⟩
  have hstaged : Staged r := hplay.advance _
  have hids : r.playback.seen.map (·.id) = [⟨1⟩, ⟨2⟩] := by
    rw [hstaged.seen]
    exact ids_advance (first.call .play) _
  have hunique : (r.playback.seen.map (·.id)).Nodup := by
    rw [hids]
    decide
  have hone : ⟨1⟩ ∈ r.playback.seen.map (·.id) := by
    rw [hids]
    exact List.mem_cons_self
  obtain ⟨s, hs, hid⟩ := List.mem_map.1 hone
  have hr : r = (fresh {} 7 .encounter).after ([.play] ++ [.advance (.ofMillis 700)]) := rfl
  exact ⟨⟨hrunning, hunique⟩, s, hs, hid, bubble_windows hr hrunning hunique hs⟩

end Run

end SpriteStage
