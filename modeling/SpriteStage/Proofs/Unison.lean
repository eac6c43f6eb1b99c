import SpriteStage.Proofs.Muting
import SpriteStage.Proofs.Swaps

/-!
# Bubbles change nothing else

Two runs are in unison when they agree on everything but bubbles and the time (`Unison`). Calls and
ticks keep them so, whatever their bubbles. While time passes they are not in step, for bubbles fire
in the one that do not fire in the other. So each is compared with the run of its muted program,
which is mute (`Mute`): a bubble that fires leaves the two in unison, and everything else fires in
both (`Unison.drain`). Programs that are the same when they are muted therefore play alike
(`bubbles_do_not_interfere`).
-/

namespace SpriteStage

namespace Run

/-! ## Runs in unison -/

/-- The two runs agree on everything but bubbles and the time. -/
structure Unison (r r' : Run) : Prop where
  program : r'.program.muted = r.program.muted
  settings : r'.playback.settings = r.playback.settings
  viewport : r'.playback.viewport = r.playback.viewport
  running : r'.playback.isRunning = r.playback.isRunning
  ticks : r'.playback.ticks = r.playback.ticks
  swapLocked : r'.playback.swapLocked = r.playback.swapLocked
  highlighted : r'.playback.highlighted = r.playback.highlighted
  lastSwap : r'.playback.lastSwap = r.playback.lastSwap
  lastStamp : r'.playback.lastStamp = r.playback.lastStamp
  hues : r'.playback.hues = r.playback.hues
  bodies : ∀ id, (r'.playback.cast.get? id).map Actor.body =
    (r.playback.cast.get? id).map Actor.body
  pending : r'.playback.pending = r.playback.pending

/-- What every reachable run has: its timers are owned, and its stage follows the sprites seen. -/
structure Sound (r : Run) : Prop where
  orderly : r.playback.Orderly
  follows : r.playback.Follows

/-- All reachable runs are sound. -/
theorem invariant_sound : Invariant Sound where
  fresh := fun settings seed program =>
    ⟨invariant_orderly.fresh settings seed program, invariant_follows.fresh settings seed program⟩
  edit := fun ⟨ho, hf⟩ p => ⟨invariant_orderly.edit ho p, invariant_follows.edit hf p⟩
  resize := fun ⟨ho, hf⟩ v => ⟨invariant_orderly.resize ho v, invariant_follows.resize hf v⟩
  sync := fun ⟨ho, hf⟩ => ⟨invariant_orderly.sync ho, invariant_follows.sync hf⟩
  start := fun ⟨ho, hf⟩ h => ⟨invariant_orderly.start ho h, invariant_follows.start hf h⟩
  stop := fun ⟨ho, hf⟩ => ⟨invariant_orderly.stop ho, invariant_follows.stop hf⟩
  click := fun ⟨ho, hf⟩ c => ⟨invariant_orderly.click ho c, invariant_follows.click hf c⟩
  fire := fun ⟨ho, hf⟩ h => ⟨invariant_orderly.fire ho h, invariant_follows.fire hf h⟩
  arrive := fun ⟨ho, hf⟩ hclock h =>
    ⟨invariant_orderly.arrive ho hclock h, invariant_follows.arrive hf hclock h⟩

variable {r r' m : Run}

theorem Unison.symm (h : Unison r r') : Unison r' r :=
  ⟨h.program.symm, h.settings.symm, h.viewport.symm, h.running.symm, h.ticks.symm,
    h.swapLocked.symm, h.highlighted.symm, h.lastSwap.symm, h.lastStamp.symm, h.hues.symm,
    fun id => (h.bodies id).symm, h.pending.symm⟩

theorem Unison.trans (h : Unison r r') (h' : Unison r' m) : Unison r m :=
  ⟨h'.program.trans h.program, h'.settings.trans h.settings, h'.viewport.trans h.viewport,
    h'.running.trans h.running, h'.ticks.trans h.ticks, h'.swapLocked.trans h.swapLocked,
    h'.highlighted.trans h.highlighted, h'.lastSwap.trans h.lastSwap,
    h'.lastStamp.trans h.lastStamp, h'.hues.trans h.hues,
    fun id => (h'.bodies id).trans (h.bodies id), h'.pending.trans h.pending⟩

theorem Unison.ids (h : Unison r r') :
    r'.program.sprites.map (·.id) = r.program.sprites.map (·.id) := by
  rw [← Program.ids_muted, h.program, Program.ids_muted]

/-! ## A look at the program -/

/-- The same sprites depart from the one stage as from the other. -/
theorem Unison.mem_departed_iff (h : Unison r r') (id : SpriteId) :
    id ∈ r'.playback.cast.departed r'.program.sprites ↔
      id ∈ r.playback.cast.departed r.program.sprites := by
  rw [Cast.mem_departed, Cast.mem_departed, Cast.mem_ids_congr (h.bodies id), h.ids]

/-- Runs in unison stay so when each looks at its program, even if only one of them finds it
changed. -/
theorem Unison.sync (h : Unison r r') (hr : Sound r) (hr' : Sound r') : Unison r.sync r'.sync := by
  have halike := Playback.alike_sync r.playback r.program.sprites
  have halike' := Playback.alike_sync r'.playback r'.program.sprites
  exact {
    program := h.program
    settings := (halike'.settings.trans h.settings).trans halike.settings.symm
    viewport := (halike'.viewport.trans h.viewport).trans halike.viewport.symm
    running := ((isRunning_playback_sync _ _).trans h.running).trans
      (isRunning_playback_sync _ _).symm
    ticks := (halike'.ticks.trans h.ticks).trans halike.ticks.symm
    swapLocked := (halike'.swapLocked.trans h.swapLocked).trans halike.swapLocked.symm
    highlighted := by
      show (r'.playback.sync _).highlighted = (r.playback.sync _).highlighted
      rw [hr'.follows.highlighted_sync, hr.follows.highlighted_sync, h.highlighted]
      congr 1
      funext pair
      rw [decide_eq_decide, h.mem_departed_iff, h.mem_departed_iff]
    lastSwap := (halike'.lastSwap.trans h.lastSwap).trans halike.lastSwap.symm
    lastStamp := (halike'.lastStamp.trans h.lastStamp).trans halike.lastStamp.symm
    hues := (halike'.hues.trans h.hues).trans halike.hues.symm
    bodies := by
      intro id
      show ((r'.playback.sync _).cast.get? id).map _ = ((r.playback.sync _).cast.get? id).map _
      rw [hr'.follows.bodies_sync, hr.follows.bodies_sync, h.program, h.bodies id]
    pending := by
      show (r'.playback.sync _).pending = (r.playback.sync _).pending
      rw [hr'.orderly.pending_sync, hr.orderly.pending_sync, h.pending] }

/-! ## Ticks -/

/-- What the scripts do to the bodies is what they do without their bubbles. -/
theorem bodies_acted (r : Run) :
    (fun id => (r.acted.playback.cast.get? id).map Actor.body) =
      actBodies r.playback.viewport r.program.muted.sprites
        fun id => (r.playback.cast.get? id).map Actor.body :=
  (bodies_actAll _ _ _).trans (actBodies_muted _ _ _).symm

theorem Unison.acted (h : Unison r r') : Unison r.acted r'.acted := by
  have hbodies : (fun id => (r'.acted.playback.cast.get? id).map Actor.body) =
      fun id => (r.acted.playback.cast.get? id).map Actor.body := by
    rw [bodies_acted, bodies_acted, h.viewport, h.program, funext h.bodies]
  exact { h with
    ticks := congrArg (· + 1) h.ticks
    bodies := congrFun hbodies }

/-- The same pair swaps in both runs. -/
theorem Unison.swapped? (h : Unison r r') : r'.swapped? = r.swapped? := by
  unfold Run.swapped?
  rw [h.swapLocked, h.settings, Cast.positions_congr h.acted.bodies]

/-- A swap that is told of at the same time, without its look at the program. -/
theorem Unison.announced (h : Unison r r') (hclock : r'.playback.clock = r.playback.clock)
    (session session' : Token) (a b : SpriteId) :
    Unison ⟨r.announced session a b, r.program.swapScripts a b⟩
      ⟨r'.announced session' a b, r'.program.swapScripts a b⟩ := by
  have hnames : ∀ id, r'.program.nameOf id = r.program.nameOf id := by
    intro id
    rw [← Program.nameOf_muted, h.program, Program.nameOf_muted]
  have hpending : ∀ (q : Run) (token : Token), (q.announced token a b).pending =
      insertTimer ⟨q.playback.clock + q.playback.settings.highlight, ⟨0⟩, none, .clearHighlight⟩
        q.playback.pending := by
    intro q token
    exact pendingOf_insertTimer rfl q.playback.queue.inOrder
  exact { h with
    program := by rw [Program.swapScripts_muted, Program.swapScripts_muted, h.program]
    swapLocked := rfl
    highlighted := rfl
    lastSwap := by
      show some (SwapNotice.mk _ _ _) = some (SwapNotice.mk _ _ _)
      rw [hnames, hnames, hclock]
    pending := by rw [hpending, hpending, hclock, h.settings, h.pending] }

/-- **A tick at the same time keeps runs in unison.** -/
theorem Unison.tick (h : Unison r r') (hclock : r'.playback.clock = r.playback.clock)
    (hr : Sound r) (hr' : Sound r') {session schedule session' schedule' : Token}
    (hserving : r.playback.Serving session schedule)
    (hserving' : r'.playback.Serving session' schedule') :
    Unison (r.tick session) (r'.tick session') := by
  rw [tick_eq_swapped?, tick_eq_swapped?, h.swapped?]
  cases r.swapped? with
  | none => exact h.acted
  | some pair =>
    obtain ⟨a, b⟩ := pair
    apply Unison.sync (h.acted.announced hclock session session' a b)
    · exact ⟨Or.inr ⟨session, schedule, hserving.acted.announced a b⟩, hr.follows.acted⟩
    · exact ⟨Or.inr ⟨session', schedule', hserving'.acted.announced a b⟩, hr'.follows.acted⟩

/-! ## Calls without the passing of time -/

/-- Runs in unison that show the same time begin their sessions in unison. -/
theorem Unison.start (h : Unison r r') (hclock : r'.playback.clock = r.playback.clock)
    (hrest : r.playback.AtRest) (hrest' : r'.playback.AtRest) :
    Unison { r with playback := r.playback.start } { r' with playback := r'.playback.start } := by
  -- every script may run again
  have hbodies : ∀ (p : Playback) (id : SpriteId), (p.start.cast.get? id).map Actor.body =
      ((p.cast.get? id).map Actor.body).map fun b => { b with hasRun := false } := by
    intro p id
    show ((p.cast.resetRuns.clearBubbles.get? id).map Actor.body) = _
    rw [Cast.body_clearBubbles, Cast.get?_resetRuns, Option.map_map, Option.map_map]
    rfl
  exact { h with
    running := rfl
    swapLocked := rfl
    bodies := fun id => by rw [hbodies, hbodies, h.bodies id]
    pending := by rw [hrest'.pending_start, hrest.pending_start, hclock, h.settings] }

/-- Runs in unison that show the same time are in unison after the call that plays. -/
theorem Unison.play (h : Unison r r') (hclock : r'.playback.clock = r.playback.clock)
    (hr : Sound r) (hr' : Sound r') : Unison r.play r'.play := by
  unfold Run.play
  rw [h.running]
  split
  · exact h
  · rename_i hstopped
    rw [Bool.not_eq_true] at hstopped
    have hmode := Playback.isRunning_eq_false_iff.1 hstopped
    have hmode' := Playback.isRunning_eq_false_iff.1 (h.running.trans hstopped)
    have hsync := h.sync hr hr'
    apply hsync.start
    · rw [clock_sync, clock_sync, hclock]
    · exact (invariant_sound.sync hr).orderly.atRest_of_mode (mode_sync_of_stopped hmode)
    · exact (invariant_sound.sync hr').orderly.atRest_of_mode (mode_sync_of_stopped hmode')

theorem Unison.stop (h : Unison r r') (hr : Sound r) (hr' : Sound r') :
    Unison r.stop r'.stop := by
  cases hrunning : r.playback.isRunning with
  | false =>
    show Unison { r with playback := r.playback.stop } { r' with playback := r'.playback.stop }
    rw [Playback.stop_of_stopped hrunning,
      Playback.stop_of_stopped (h.running.trans hrunning)]
    exact h
  | true =>
    obtain ⟨session, schedule, hserving⟩ := hr.orderly.serving_of_isRunning hrunning
    obtain ⟨session', schedule', hserving'⟩ :=
      hr'.orderly.serving_of_isRunning (h.running.trans hrunning)
    have hpending : r'.playback.stop.pending = r.playback.stop.pending := by
      rw [hserving'.stop.pending, hserving.stop.pending]
    revert hpending
    show _ → Unison { r with playback := r.playback.stop } { r' with playback := r'.playback.stop }
    rw [Playback.stop_of_running hserving.mode, Playback.stop_of_running hserving'.mode]
    intro hpending
    exact { h with
      running := rfl
      highlighted := rfl
      bodies := fun id => by
        show (r'.playback.cast.clearBubbles.get? id).map _ =
          (r.playback.cast.clearBubbles.get? id).map _
        rw [Cast.body_clearBubbles, Cast.body_clearBubbles, h.bodies id]
      pending := hpending }

/-- A click is the same to runs in unison. -/
theorem Unison.click (h : Unison r r') (c : Click) :
    Unison { r with playback := r.playback.click c }
      { r' with playback := r'.playback.click c } := by
  unfold Playback.click
  rw [h.lastStamp]
  split
  · exact h
  · have hbody := h.bodies c.sprite
    cases hactor : r.playback.cast.get? c.sprite with
    | none =>
      rw [hactor, Option.map_none, Option.map_eq_none_iff] at hbody
      simp only [hactor, hbody]
      exact { h with lastStamp := rfl }
    | some a =>
      rw [hactor, Option.map_some, Option.map_eq_some_iff] at hbody
      obtain ⟨a', hactor', hbody⟩ := hbody
      have hclick := Playback.body_click hbody r.playback.viewport c.instruction r.playback.hues
      simp only [hactor, hactor', h.viewport, h.hues]
      exact { h with
        viewport := rfl
        lastStamp := rfl
        hues := hclick.2
        bodies := by
          intro id
          show ((r'.playback.cast.modify c.sprite _).get? id).map _ =
            ((r.playback.cast.modify c.sprite _).get? id).map _
          rw [Cast.get?_modify, Cast.get?_modify]
          split
          · rename_i hid
            rw [hid, hactor, hactor', Option.map_some, Option.map_some, Option.map_some,
              Option.map_some, hclick.1]
          · exact h.bodies id }

/-! ## Firings -/

/-- A bubble that fires in one of two runs in unison leaves them so. -/
theorem Unison.firedBy_bubble (h : Unison r r') {target : Duration} {fired : Fired TimedEvent}
    {left : Queue TimedEvent} (hr : Sound r)
    (hpop : r.playback.queue.popDue? target = some (fired, left))
    (hbubble : fired.event.isBubble = true) : Unison (r.firedBy fired left) r' := by
  obtain ⟨session, schedule, hserving⟩ := hr.orderly.serving_of_popDue? hpop
  apply hserving.firedBy_cases hpop (P := fun m => Unison m r')
  · intro hevent
    simp [hevent, TimedEvent.isBubble] at hbubble
  · intro hevent
    simp [hevent, TimedEvent.isBubble] at hbubble
  · intro sprite bubble _
    have hpending : pendingOf left.timers = r.playback.pending :=
      Queue.pendingOf_left_of_bubble hpop hbubble
    exact { h with
      bodies := fun id => (h.bodies id).trans (Cast.body_setBubble _ _ _ id).symm
      pending := h.pending.trans hpending.symm }

/-- The timers that are taken out may differ, if what is left is the same but for bubbles. -/
theorem Unison.taken (h : Unison r r') {fired fired' : Fired TimedEvent}
    {left left' : Queue TimedEvent} (hleft : pendingOf left'.timers = pendingOf left.timers) :
    Unison (r.taken fired left) (r'.taken fired' left') :=
  { h with pending := hleft }

/-- **What fires in two runs in unison.** The same event at the same time keeps them so. -/
theorem Unison.firedBy (h : Unison r r') {target : Duration} {fired fired' : Fired TimedEvent}
    {left left' : Queue TimedEvent} (hr : Sound r) (hr' : Sound r')
    (hpop : r.playback.queue.popDue? target = some (fired, left))
    (hpop' : r'.playback.queue.popDue? target = some (fired', left'))
    (htime : fired'.time = fired.time) (hevent : fired'.event = fired.event)
    (hloud : fired.event.isBubble = false)
    (hleft : pendingOf left'.timers = pendingOf left.timers) :
    Unison (r.firedBy fired left) (r'.firedBy fired' left') := by
  obtain ⟨session, schedule, hserving⟩ := hr.orderly.serving_of_popDue? hpop
  obtain ⟨session', schedule', hserving'⟩ := hr'.orderly.serving_of_popDue? hpop'
  have htaken : Unison (r.taken fired left) (r'.taken fired' left') := h.taken hleft
  apply hserving.firedBy_both hserving' hpop hpop' hevent (P := Unison)
  · intro _
    have hserves := hserving.taken hpop
    have hserves' := hserving'.taken hpop'
    exact htaken.tick htime ⟨Or.inr ⟨_, _, hserves⟩, hr.follows⟩
      ⟨Or.inr ⟨_, _, hserves'⟩, hr'.follows⟩ hserves hserves'
  · intro _
    exact { htaken with highlighted := rfl }
  · intro sprite bubble he
    simp [he, TimedEvent.isBubble] at hloud

/-! ## Mute runs -/

/-- The run has no bubbles at all: none in its program, none seen and none pending. -/
structure Mute (m : Run) : Prop where
  program : m.program.muted = m.program
  seen : m.playback.seen.map Sprite.muted = m.playback.seen
  timers : ∀ t ∈ m.playback.queue.timers, t.event.isBubble = false

theorem Mute.sync (h : Mute m) : Mute m.sync := by
  have hsprites : m.program.sprites.map Sprite.muted = m.program.sprites :=
    congrArg Program.sprites h.program
  have hsync : (m.playback.sync m.program.sprites).seen.map Sprite.muted =
        (m.playback.sync m.program.sprites).seen ∧
      ∀ t ∈ (m.playback.sync m.program.sprites).queue.timers, t.event.isBubble = false := by
    apply Playback.sync_cases (P := fun q => q.seen.map Sprite.muted = q.seen ∧
      ∀ t ∈ q.queue.timers, t.event.isBubble = false)
    · intro _
      exact ⟨h.seen, h.timers⟩
    · intro _
      exact ⟨hsprites, h.timers⟩
    · intro session schedule _
      exact ⟨hsprites, Playback.isBubble_scheduleBubbles (p := m.playback.noticed m.program.sprites)
        hsprites h.timers session⟩
  exact ⟨h.program, hsync.1, hsync.2⟩

theorem Mute.start (h : Mute m) : Mute { m with playback := m.playback.start } := by
  refine ⟨h.program, h.seen, ?_⟩
  show ∀ t ∈ m.playback.start.queue.timers, t.event.isBubble = false
  unfold Playback.start
  apply Playback.isBubble_scheduleBubbles
  · exact h.seen
  · intro t ht
    rcases mem_insertTimer.1 ht with rfl | ht
    · rfl
    · exact h.timers t ht

theorem Mute.play (h : Mute m) : Mute m.play := by
  unfold Run.play
  split
  · exact h
  · exact h.sync.start

theorem Mute.stop (h : Mute m) : Mute m.stop := by
  refine ⟨h.program, ?_, fun t ht => h.timers t ?_⟩
  · show m.playback.stop.seen.map _ = m.playback.stop.seen
    unfold Playback.stop
    split
    · exact h.seen
    · exact h.seen
  · change t ∈ m.playback.stop.queue.timers at ht
    unfold Playback.stop at ht
    split at ht
    · exact ht
    · exact (Queue.mem_cancel.1 (Queue.mem_cancel.1 ht).1).1

/-- Scripts without bubbles stay so when they are swapped. -/
theorem Mute.tick (h : Mute m) (session : Token) : Mute (m.tick session) := by
  apply tick_cases
  · exact ⟨h.program, h.seen, h.timers⟩
  · intro a b
    have hannounced : Mute ⟨m.acted.announced session a b, m.program.swapScripts a b⟩ := by
      refine ⟨?_, h.seen, fun t ht => ?_⟩
      · rw [Program.swapScripts_muted, h.program]
      · rcases Queue.mem_schedule.1 ht with rfl | ht
        · rfl
        · exact h.timers t ht
    exact hannounced.sync

/-- No timer brings bubbles into a mute run. -/
theorem Mute.firedBy (h : Mute m) {target : Duration} {fired : Fired TimedEvent}
    {left : Queue TimedEvent} (hpop : m.playback.queue.popDue? target = some (fired, left)) :
    Mute (m.firedBy fired left) := by
  have htaken : Mute (m.taken fired left) := by
    refine ⟨h.program, h.seen, fun u hu => ?_⟩
    obtain ⟨-, t, ht, -, hevent, -⟩ := Queue.mem_left_of_popDue? hpop hu
    rw [hevent]
    exact h.timers t ht
  apply firedBy_cases
  · exact htaken
  · exact htaken.tick _
  · exact ⟨htaken.program, htaken.seen, htaken.timers⟩
  · intro sprite bubble
    exact ⟨htaken.program, htaken.seen, htaken.timers⟩

/-! ## While time passes -/

/-- **A run drains in unison with a mute one.** Its bubbles fire in between, and everything else
fires in both. -/
theorem Unison.drain (target : Duration) (r : Run) :
    ∀ m, Unison r m → Sound r → Sound m → Mute m →
      Unison (Run.drain target r) (Run.drain target m) := by
  -- along the drain of the run with the bubbles, while the mute one waits for the others
  induction r using drain_induction target with
  | hdone r hnone =>
    intro m h _ _ hmute
    have hnone' := Queue.popDue?_eq_none_of_pendingOf h.pending hmute.timers hnone
    rw [drain_of_none hnone, drain_of_none hnone']
    exact h
  | hfire r fired left hpop ih =>
    intro m h hr hm hmute
    have hfired := invariant_sound.fire hr hpop
    rw [drain_of_some hpop]
    cases hloud : fired.event.isBubble with
    | true => exact ih m (h.firedBy_bubble hr hpop hloud) hfired hm hmute
    | false =>
      obtain ⟨fired', left', hpop', htime, hevent, hleft⟩ :=
        Queue.popDue?_of_pendingOf h.pending hmute.timers hpop hloud
      rw [drain_of_some hpop']
      exact ih _ (h.firedBy hr hm hpop hpop' htime hevent hloud hleft) hfired
        (invariant_sound.fire hm hpop') (hmute.firedBy hpop')

/-- A run and the mute run in unison with it are in unison when time has passed. -/
theorem Unison.advance (h : Unison r m) (hclock : m.playback.clock = r.playback.clock)
    (hr : Sound r) (hm : Sound m) (hmute : Mute m) (dt : Duration) :
    Unison (r.advance dt) (m.advance dt) := by
  have hdrain := Unison.drain (r.playback.clock + dt) r.sync m.sync (h.sync hr hm)
    (invariant_sound.sync hr) (invariant_sound.sync hm) hmute.sync
  rw [advance_eq, advance_eq, hclock]
  exact { hdrain with }

theorem Mute.advance (h : Mute m) (dt : Duration) : Mute (m.advance dt) := by
  have hdrain : Mute (Run.drain (m.playback.clock + dt) m.sync) :=
    forall_drain (fun _ _ _ hm hpop => hm.firedBy hpop) h.sync
  exact ⟨hdrain.program, hdrain.seen, hdrain.timers⟩

/-! ## Muted programs -/

/-- The call with muted edits. -/
def Call.muted : Call → Call
  | .edit program => .edit program.muted
  | c => c

/-- Time passes only in calls that let it pass. -/
theorem clock_call (r : Run) (c : Call) :
    (r.call c).playback.clock = match c with
      | .advance dt => r.playback.clock + dt
      | _ => r.playback.clock := by
  have hplay : r.play.playback.clock = r.playback.clock := by
    unfold play
    split
    · rfl
    · exact clock_sync r
  have hstop : r.stop.playback.clock = r.playback.clock := by
    show r.playback.stop.clock = _
    unfold Playback.stop
    split <;> rfl
  cases c with
  | edit program => rfl
  | resize viewport => rfl
  | sync => exact clock_sync r
  | play => exact hplay
  | stop => exact hstop
  | setPlaying on =>
    cases on with
    | false => exact hstop
    | true => exact hplay
  | advance dt => rfl
  | click c =>
    obtain ⟨stamp, hues, cast, heq, -⟩ := r.playback.click_eq c
    show (r.playback.click c).clock = _
    rw [heq]

/-- A run and a mute one stay in unison in every call, if edits are muted for the mute one. -/
theorem Unison.call (h : Unison r m) (hclock : m.playback.clock = r.playback.clock)
    (hr : Sound r) (hm : Sound m) (hmute : Mute m) (c : Call) :
    Unison (r.call c) (m.call c.muted) ∧ Mute (m.call c.muted) := by
  cases c with
  | edit program =>
    exact ⟨{ h with program := program.muted_muted },
      ⟨program.muted_muted, hmute.seen, hmute.timers⟩⟩
  | resize viewport =>
    exact ⟨{ h with viewport := rfl }, ⟨hmute.program, hmute.seen, hmute.timers⟩⟩
  | sync => exact ⟨h.sync hr hm, hmute.sync⟩
  | play => exact ⟨h.play hclock hr hm, hmute.play⟩
  | stop => exact ⟨h.stop hr hm, hmute.stop⟩
  | setPlaying on =>
    cases on with
    | false => exact ⟨h.stop hr hm, hmute.stop⟩
    | true => exact ⟨h.play hclock hr hm, hmute.play⟩
  | advance dt => exact ⟨h.advance hclock hr hm hmute dt, hmute.advance dt⟩
  | click c =>
    refine ⟨h.click c, ?_⟩
    obtain ⟨stamp, hues, cast, heq, -⟩ := m.playback.click_eq c
    show Mute { m with playback := m.playback.click c }
    rw [heq]
    exact ⟨hmute.program, hmute.seen, hmute.timers⟩

/-- A run and the mute one are in unison after any calls, muted for the mute run, and they show the
same time. -/
theorem Unison.after (calls : List Call) (h : Unison r m)
    (hclock : m.playback.clock = r.playback.clock) (hr : Sound r) (hm : Sound m)
    (hmute : Mute m) :
    Unison (r.after calls) (m.after (calls.map Call.muted)) ∧
      (m.after (calls.map Call.muted)).playback.clock = (r.after calls).playback.clock := by
  induction calls generalizing r m with
  | nil => exact ⟨h, hclock⟩
  | cons c rest ih =>
    obtain ⟨hcall, hmute'⟩ := h.call hclock hr hm hmute c
    refine ih hcall ?_ (invariant_sound.call hr c) (invariant_sound.call hm c.muted) hmute'
    rw [clock_call, clock_call]
    cases c <;> simp [Call.muted, hclock]

/-- A program plays in unison with itself muted. -/
theorem unison_muted (settings : PlaybackSettings) (seed : UInt64) (program : Program)
    (calls : List Call) :
    let r := (fresh settings seed program).after calls
    let m := (fresh settings seed program.muted).after (calls.map Call.muted)
    Unison r m ∧ m.playback.clock = r.playback.clock := by
  have hfresh : Unison (fresh settings seed program) (fresh settings seed program.muted) :=
    ⟨program.muted_muted, rfl, rfl, rfl, rfl, rfl, rfl, rfl, rfl, rfl, fun _ => rfl, rfl⟩
  exact hfresh.after calls rfl (invariant_sound.fresh _ _ _) (invariant_sound.fresh _ _ _)
    ⟨program.muted_muted, rfl, fun t ht => absurd ht List.not_mem_nil⟩

/-- **Bubbles change nothing else.** Two programs that are the same when their bubbles are taken out
play alike under the same calls, edits among them that differ in bubbles only. Whatever is called,
the two runs have the same time on the clock, the same number of ticks, are both in a session or
both not, show every sprite at the same place, turned, looking and having run alike, have the same
lock, the same highlight and the same last swap, and their programs are still the same but for
bubbles. -/
theorem bubbles_do_not_interfere {settings : PlaybackSettings} {seed : UInt64} {p q : Program}
    (hprogram : p.muted = q.muted) {calls calls' : List Call}
    (hcalls : calls.map Call.muted = calls'.map Call.muted) :
    let r := (fresh settings seed p).after calls
    let r' := (fresh settings seed q).after calls'
    r'.playback.clock = r.playback.clock ∧ r'.playback.ticks = r.playback.ticks ∧
      r'.playback.isRunning = r.playback.isRunning ∧
      (∀ id, (r'.playback.cast.get? id).map Actor.body =
        (r.playback.cast.get? id).map Actor.body) ∧
      r'.playback.swapLocked = r.playback.swapLocked ∧
      r'.playback.highlighted = r.playback.highlighted ∧
      r'.playback.lastSwap = r.playback.lastSwap ∧ r'.program.muted = r.program.muted := by
  intro r r'
  obtain ⟨h, hclock⟩ := unison_muted settings seed p calls
  obtain ⟨h', hclock'⟩ := unison_muted settings seed q calls'
  rw [hprogram, hcalls] at h hclock
  have hunison : Unison r r' := h.trans h'.symm
  exact ⟨hclock'.symm.trans hclock, hunison.ticks, hunison.running, hunison.bodies,
    hunison.swapLocked, hunison.highlighted, hunison.lastSwap, hunison.program⟩

/-- The program of two sprites that meet, and the same with another bubble for the other sprite, a
thought with a NaN for its seconds. -/
theorem bubbles_do_not_interfere_encounter :
    let q : Program := ⟨{}, [⟨⟨1⟩, "Cat 1", 50.0, 50.0, [⟨⟨1⟩, .move (some 10.0)⟩,
      ⟨⟨7⟩, .bubble .think (some "Hm") (some notANumber)⟩, ⟨⟨2⟩, .forever⟩]⟩,
      ⟨⟨2⟩, "Cat 2", 80.0, 60.0, []⟩]⟩
    let calls : List Call := [.play, .advance (.ofMillis 700), .sync, .advance (.ofMillis 300)]
    let r := (fresh {} 7 .encounter).after calls
    let r' := (fresh {} 7 q).after calls
    Program.encounter.muted = q.muted ∧
      r'.playback.clock = r.playback.clock ∧ r'.playback.ticks = r.playback.ticks ∧
      (∀ id, (r'.playback.cast.get? id).map Actor.body =
        (r.playback.cast.get? id).map Actor.body) ∧
      r'.playback.lastSwap = r.playback.lastSwap ∧ r'.program.muted = r.program.muted := by
  intro q calls r r'
  have hprogram : Program.encounter.muted = q.muted := rfl
  have hcalls : calls.map Call.muted = calls.map Call.muted := rfl
  obtain ⟨hclock, hticks, -, hbodies, -, -, hswap, hmuted⟩ :=
    bubbles_do_not_interfere hprogram hcalls
  exact ⟨hprogram, hclock, hticks, hbodies, hswap, hmuted⟩

end Run

end SpriteStage
