import SpriteStage.Proofs.Agendas
import SpriteStage.Proofs.Swaps

/-!
# Every session plays alike

A session does not remember earlier ones. Two sessions that begin with the same stage are compared
move by move (`Encore`): their clocks show the same time since each began, their ticks are as many,
and what is to fire is the same agenda, though the timers are due at other times and their owners
are others. Every look at the program, every tick and every firing keeps this, as long as neither
clock comes to the end of time (`Encore.drain`, `Encore.advances`). So what there is to see of a
session depends on the stage that it finds and on nothing else (`sessions_play_alike`).
-/

namespace SpriteStage

/-- Where a sprite stands, how it is turned and what it looks like. -/
structure Pose where
  position : Position
  angle : Float
  looks : Looks

/-- What an actor takes along from session to session. -/
def Actor.pose (a : Actor) : Pose := ⟨a.position, a.angle, a.looks⟩

/-- The actor of a pose when a session begins: it has not run and says nothing. -/
def Pose.opening (pose : Pose) : Actor := ⟨pose.position, pose.angle, pose.looks, false, none⟩

namespace Playback

variable {p p' : Playback}

/-- The views depend on the sprites seen by their ids only. -/
theorem views_eq (p : Playback) : p.views = (p.seen.map (·.id)).filterMap p.cast.view? := by
  rw [views, List.filterMap_map]
  rfl

/-- When a session begins, only the poses are left of the actors. -/
theorem get?_start (p : Playback) (id : SpriteId) :
    p.start.cast.get? id = ((p.cast.get? id).map Actor.pose).map Pose.opening := by
  show (p.cast.resetRuns.clearBubbles).get? id = _
  rw [Cast.get?_clearBubbles, Cast.get?_resetRuns, Option.map_map, Option.map_map]
  rfl

/-- Sessions begin with the same cast if the poses are the same: runs and bubbles are taken back. -/
theorem cast_start (h : ∀ id, (p'.cast.get? id).map Actor.pose = (p.cast.get? id).map Actor.pose) :
    p'.start.cast = p.start.cast := by
  apply Cast.ext_get?
  intro id
  rw [get?_start, get?_start, h]

end Playback

namespace Run

/-- Two sessions that began in `o` and `o'` are alike so far: the same is on the stage, and the same
is to come in a span of time from the start. -/
structure Encore (o o' : Run) (span : ℕ) (r r' : Run) : Prop where
  room : o.playback.clock.nanos + span < Duration.longest.nanos
  room' : o'.playback.clock.nanos + span < Duration.longest.nanos
  running : r.playback.isRunning = true
  running' : r'.playback.isRunning = true
  program : r'.program = r.program
  settings : r'.playback.settings = r.playback.settings
  viewport : r'.playback.viewport = r.playback.viewport
  cast : r'.playback.cast = r.playback.cast
  seen : r'.playback.seen.map Sprite.unsigned = r.playback.seen.map Sprite.unsigned
  swapLocked : r'.playback.swapLocked = r.playback.swapLocked
  highlighted : r'.playback.highlighted = r.playback.highlighted
  since : ∃ elapsed, r.playback.clock.nanos = o.playback.clock.nanos + elapsed ∧
    r'.playback.clock.nanos = o'.playback.clock.nanos + elapsed
  ticks : ∃ n, r.playback.ticks = o.playback.ticks + n ∧ r'.playback.ticks = o'.playback.ticks + n
  agenda : agenda o'.playback.clock span r'.playback.queue.timers =
    agenda o.playback.clock span r.playback.queue.timers

namespace Encore

variable {o o' r r' : Run} {span : ℕ}

theorem start_le (h : Encore o o' span r r') : o.playback.clock ≤ r.playback.clock := by
  obtain ⟨elapsed, hclock, -⟩ := h.since
  rw [Duration.le_iff, hclock]
  exact Nat.le_add_right _ _

theorem start_le' (h : Encore o o' span r r') : o'.playback.clock ≤ r'.playback.clock := by
  obtain ⟨elapsed, -, hclock⟩ := h.since
  rw [Duration.le_iff, hclock]
  exact Nat.le_add_right _ _

/-! ## A look at the program -/

/-- Both find their programs changed or neither does, and then the bubbles start anew. -/
theorem sync (h : Encore o o' span r r') (hr : r.playback.Orderly) (hr' : r'.playback.Orderly) :
    Encore o o' span r.sync r'.sync := by
  have hagree : spritesAgree r'.playback.seen r'.program.sprites =
      spritesAgree r.playback.seen r.program.sprites := by
    rw [h.program]
    exact spritesAgree_congr h.seen _
  unfold Run.sync
  cases hsame : spritesAgree r.playback.seen r.program.sprites with
  | true =>
    rw [hsame] at hagree
    rw [Playback.sync_of_agree hsame, Playback.sync_of_agree hagree]
    exact h
  | false =>
    rw [hsame] at hagree
    obtain ⟨session, schedule, hserving⟩ := hr.serving_of_isRunning h.running
    obtain ⟨session', schedule', hserving'⟩ := hr'.serving_of_isRunning h.running'
    rw [Playback.sync_of_running hsame hserving.mode,
      Playback.sync_of_running hagree hserving'.mode]
    obtain ⟨elapsed, hclock, hclock'⟩ := h.since
    have hplan := hserving.agenda_noticed hclock h.room r.program.sprites
    have hplan' := hserving'.agenda_noticed hclock' h.room' r'.program.sprites
    rw [h.agenda, h.settings, h.program] at hplan'
    exact { h with
      running := rfl
      running' := rfl
      cast := by
        show (r'.playback.cast.reconcile r'.program.sprites).clearBubbles =
          (r.playback.cast.reconcile r.program.sprites).clearBubbles
        rw [h.cast, h.program]
      seen := by
        show r'.program.sprites.map _ = r.program.sprites.map _
        rw [h.program]
      highlighted := by
        show r'.playback.highlighted.filter _ = r.playback.highlighted.filter _
        rw [h.highlighted, h.cast, h.program]
      agenda := by
        rw [h.program]
        exact hplan'.trans hplan.symm }

/-! ## Ticks -/

/-- When the scripts run, both sessions go on alike. -/
theorem acted (h : Encore o o' span r r') : Encore o o' span r.acted r'.acted := by
  obtain ⟨n, hticks, hticks'⟩ := h.ticks
  exact { h with
    cast := by
      show actAll r'.playback.viewport r'.program.sprites r'.playback.cast =
        actAll r.playback.viewport r.program.sprites r.playback.cast
      rw [h.viewport, h.program, h.cast]
    ticks := by
      refine ⟨n + 1, ?_, ?_⟩
      · show r.playback.ticks + 1 = _
        rw [hticks, UInt64.add_assoc]
      · show r'.playback.ticks + 1 = _
        rw [hticks', UInt64.add_assoc] }

/-- The same pair swaps in both. -/
theorem swapped? (h : Encore o o' span r r') : r'.swapped? = r.swapped? := by
  unfold Run.swapped?
  rw [h.swapLocked, h.settings, h.acted.cast]

/-- A swap that is told of puts the end of the highlight on both agendas. -/
theorem announced (h : Encore o o' span r r') (session session' : Token) (a b : SpriteId) :
    Encore o o' span ⟨r.announced session a b, r.program.swapScripts a b⟩
      ⟨r'.announced session' a b, r'.program.swapScripts a b⟩ := by
  obtain ⟨elapsed, hclock, hclock'⟩ := h.since
  exact { h with
    program := by rw [h.program]
    swapLocked := rfl
    highlighted := rfl
    agenda := by
      show SpriteStage.agenda _ span (insertTimer _ r'.playback.queue.timers) =
        SpriteStage.agenda _ span (insertTimer _ r.playback.queue.timers)
      rw [agenda_insertTimer hclock h.room r.playback.queue.inOrder,
        agenda_insertTimer hclock' h.room' r'.playback.queue.inOrder, h.agenda, h.settings] }

/-- **A tick keeps the sessions alike.** -/
theorem tick (h : Encore o o' span r r') {session schedule session' schedule' : Token}
    (hserving : r.playback.Serving session schedule)
    (hserving' : r'.playback.Serving session' schedule') :
    Encore o o' span (r.tick session) (r'.tick session') := by
  rw [tick_eq_swapped?, tick_eq_swapped?, h.swapped?]
  cases r.swapped? with
  | none => exact h.acted
  | some pair =>
    obtain ⟨a, b⟩ := pair
    exact (h.acted.announced session session' a b).sync
      (Or.inr ⟨session, schedule, hserving.acted.announced a b⟩)
      (Or.inr ⟨session', schedule', hserving'.acted.announced a b⟩)

/-! ## Firings -/

/-- **The same firing keeps the sessions alike**, whoever owns the timers. -/
theorem firedBy (h : Encore o o' span r r') {target target' : Duration}
    {fired fired' : Fired TimedEvent} {left left' : Queue TimedEvent}
    (hr : r.playback.Orderly) (hr' : r'.playback.Orderly)
    (hpop : r.playback.queue.popDue? target = some (fired, left))
    (hpop' : r'.playback.queue.popDue? target' = some (fired', left'))
    (hevent : fired'.event = fired.event)
    (hsince : ∃ since, fired.time.nanos = o.playback.clock.nanos + since ∧
      fired'.time.nanos = o'.playback.clock.nanos + since)
    (hleft : SpriteStage.agenda o'.playback.clock span left'.timers =
      SpriteStage.agenda o.playback.clock span left.timers) :
    Encore o o' span (r.firedBy fired left) (r'.firedBy fired' left') := by
  obtain ⟨session, schedule, hserving⟩ := hr.serving_of_isRunning h.running
  obtain ⟨session', schedule', hserving'⟩ := hr'.serving_of_isRunning h.running'
  have htaken : Encore o o' span (r.taken fired left) (r'.taken fired' left') :=
    { h with since := hsince, agenda := hleft }
  apply hserving.firedBy_both hserving' hpop hpop' hevent (P := Encore o o' span)
  · intro _
    exact htaken.tick (hserving.taken hpop) (hserving'.taken hpop')
  · intro _
    exact { htaken with highlighted := rfl }
  · intro sprite bubble _
    exact { htaken with
      cast := by
        show r'.playback.cast.setBubble _ _ = r.playback.cast.setBubble _ _
        rw [h.cast] }

/-- **While time passes the sessions stay alike**, as far as the span reaches. -/
theorem drain {target target' : Duration} {upTo : ℕ}
    (htarget : target.nanos = o.playback.clock.nanos + upTo)
    (htarget' : target'.nanos = o'.playback.clock.nanos + upTo) (hupTo : upTo ≤ span) (r : Run) :
    ∀ r', Encore o o' span r r' → r.playback.Orderly → r'.playback.Orderly →
      Encore o o' span (Run.drain target r) (Run.drain target' r') := by
  -- along the drain of the one, for the other fires whenever it does
  induction r using drain_induction target with
  | hdone r hnone =>
    intro r' h _ _
    have hnone' : r'.playback.queue.popDue? target' = none := by
      rw [Playback.popDue?_eq_none_iff_agenda htarget' hupTo, h.agenda,
        ← Playback.popDue?_eq_none_iff_agenda htarget hupTo]
      exact hnone
    rw [drain_of_none hnone, drain_of_none hnone']
    exact h
  | hfire r fired left hpop ih =>
    intro r' h hr hr'
    obtain ⟨session, schedule, hserving⟩ := hr.serving_of_isRunning h.running
    obtain ⟨session', schedule', hserving'⟩ := hr'.serving_of_isRunning h.running'
    obtain ⟨fired', left', hpop', hevent, hsince, hleft⟩ :=
      hserving.popDue?_of_agenda hserving' h.start_le h.start_le' h.room h.room' h.agenda htarget
        htarget' hupTo hpop
    rw [drain_of_some hpop, drain_of_some hpop']
    exact ih _ (h.firedBy hr hr' hpop hpop' hevent hsince hleft) (hr.firedBy hpop)
      (hr'.firedBy hpop')

/-! ## Portions of time -/

/-- When the same time passes, both sessions go on alike, as long as neither comes to its end. -/
theorem advance (h : Encore o o' span r r') (hr : r.playback.Orderly) (hr' : r'.playback.Orderly)
    {elapsed : ℕ} (hclock : r.playback.clock.nanos = o.playback.clock.nanos + elapsed)
    {dt : Duration} (hdt : elapsed + dt.nanos ≤ span) :
    Encore o o' span (r.advance dt) (r'.advance dt) ∧
      (r.advance dt).playback.clock.nanos = o.playback.clock.nanos + (elapsed + dt.nanos) := by
  have hroom := h.room
  have hroom' := h.room'
  rw [Duration.nanos_longest] at hroom hroom'
  obtain ⟨elapsed', hclock₁, hclock₂⟩ := h.since
  obtain rfl : elapsed' = elapsed := by omega
  have htarget : (r.playback.clock + dt).nanos =
      o.playback.clock.nanos + (elapsed' + dt.nanos) := by
    rw [Duration.nanos_add]
    omega
  have htarget' : (r'.playback.clock + dt).nanos =
      o'.playback.clock.nanos + (elapsed' + dt.nanos) := by
    rw [Duration.nanos_add]
    omega
  have hdrain := drain htarget htarget' hdt r.sync r'.sync (h.sync hr hr') (hr.sync _) (hr'.sync _)
  exact ⟨{ hdrain with since := ⟨_, htarget, htarget'⟩ }, htarget⟩

/-- So they do in any portions of time. -/
theorem advances (h : Encore o o' span r r') (hr : r.playback.Orderly) (hr' : r'.playback.Orderly)
    {elapsed : ℕ} (hclock : r.playback.clock.nanos = o.playback.clock.nanos + elapsed)
    (dts : List Duration) (hdts : elapsed + (dts.map (·.nanos)).sum ≤ span) :
    Encore o o' span (dts.foldl Run.advance r) (dts.foldl Run.advance r') ∧
      (dts.foldl Run.advance r).playback.clock.nanos =
        o.playback.clock.nanos + (elapsed + (dts.map (·.nanos)).sum) := by
  induction dts generalizing r r' elapsed with
  | nil => exact ⟨h, by simpa using hclock⟩
  | cons dt rest ih =>
    rw [List.map_cons, List.sum_cons, ← Nat.add_assoc elapsed] at hdts ⊢
    have hdt : elapsed + dt.nanos ≤ span := by omega
    obtain ⟨hadvance, hnext⟩ := h.advance hr hr' hclock hdt
    exact ih hadvance (invariant_orderly.advance hr dt) (invariant_orderly.advance hr' dt) hnext
      hdts

end Encore

/-! ## The beginning of a session -/

variable {r r' : Run}

/-- Two sessions that find the same stage begin alike, whatever has been before. -/
theorem encore_play {span : ℕ} (h : Reachable r) (h' : Reachable r')
    (hstopped : r.playback.isRunning = false) (hstopped' : r'.playback.isRunning = false)
    (hsettings : r'.playback.settings = r.playback.settings)
    (hviewport : r'.playback.viewport = r.playback.viewport) (hprogram : r'.program = r.program)
    (hstage : ∀ id, (r'.sync.playback.cast.get? id).map Actor.pose =
      (r.sync.playback.cast.get? id).map Actor.pose)
    (hroom : r.playback.clock.nanos + span < Duration.longest.nanos)
    (hroom' : r'.playback.clock.nanos + span < Duration.longest.nanos) :
    Encore r r' span r.play r'.play := by
  have hrest : ∀ {m : Run}, Reachable m → m.playback.isRunning = false →
      m.sync.playback.AtRest := fun hm hstop =>
    (invariant_orderly.reachable (hm.call .sync)).atRest_of_mode
      (mode_sync_of_stopped (Playback.isRunning_eq_false_iff.1 hstop))
  have halike := Playback.alike_sync r.playback r.program.sprites
  have halike' := Playback.alike_sync r'.playback r'.program.sprites
  have hseen : r'.sync.playback.seen.map Sprite.unsigned =
      r.sync.playback.seen.map Sprite.unsigned := by
    show (r'.playback.sync _).seen.map _ = (r.playback.sync _).seen.map _
    rw [Playback.unsigned_seen_sync, Playback.unsigned_seen_sync, hprogram]
  have hsettings' : r'.sync.playback.settings = r.sync.playback.settings :=
    halike'.settings.trans (hsettings.trans halike.settings.symm)
  rw [play_of_stopped hstopped, play_of_stopped hstopped']
  exact {
    room := hroom
    room' := hroom'
    running := rfl
    running' := rfl
    program := hprogram
    settings := hsettings'
    viewport := halike'.viewport.trans (hviewport.trans halike.viewport.symm)
    cast := Playback.cast_start hstage
    seen := hseen
    swapLocked := rfl
    highlighted := (hrest h' hstopped').highlighted.trans (hrest h hstopped).highlighted.symm
    since := ⟨0, congrArg (·.nanos) (clock_sync r), congrArg (·.nanos) (clock_sync r')⟩
    ticks := ⟨0, halike.ticks.trans (UInt64.add_zero _).symm,
      halike'.ticks.trans (UInt64.add_zero _).symm⟩
    agenda := by
      rw [← clock_sync] at hroom hroom'
      have hplan := (hrest h hstopped).agenda_start hroom
      have hplan' := (hrest h' hstopped').agenda_start hroom'
      rw [clock_sync] at hplan hplan'
      rw [hsettings', ← cueSheet_unsigned, hseen, cueSheet_unsigned] at hplan'
      exact hplan'.trans hplan.symm }

/-- **Every session plays alike.** Take any two runs that can be reached, with equal settings and on
stages of one size, in which no session is on: whatever has been before, they may differ in their
clocks, their ticks, their tokens, in what has run, in the lock and in the last swap. If a look at
one program leaves the actors in the same poses in both, then a session lets them play alike. After
any portions of time in which neither clock comes to its end, all views are the same and all actors
with their bubbles and with what has run, and so are the highlight, the lock and the programs. The
clocks have moved on by the same time, and the ticks are as many more. -/
theorem sessions_play_alike (h : Reachable r) (h' : Reachable r')
    (hstopped : r.playback.isRunning = false) (hstopped' : r'.playback.isRunning = false)
    (hsettings : r'.playback.settings = r.playback.settings)
    (hviewport : r'.playback.viewport = r.playback.viewport) (hprogram : r'.program = r.program)
    (hstage : ∀ id, (r'.sync.playback.cast.get? id).map Actor.pose =
      (r.sync.playback.cast.get? id).map Actor.pose)
    (dts : List Duration)
    (hend : r.playback.clock.nanos + (dts.map (·.nanos)).sum < Duration.longest.nanos)
    (hend' : r'.playback.clock.nanos + (dts.map (·.nanos)).sum < Duration.longest.nanos) :
    let m := dts.foldl Run.advance r.play
    let m' := dts.foldl Run.advance r'.play
    m'.playback.views = m.playback.views ∧ m'.playback.cast = m.playback.cast ∧
      m'.playback.highlighted = m.playback.highlighted ∧
      m'.playback.swapLocked = m.playback.swapLocked ∧ m'.program = m.program ∧
      (m.playback.clock.nanos = r.playback.clock.nanos + (dts.map (·.nanos)).sum ∧
        m'.playback.clock.nanos = r'.playback.clock.nanos + (dts.map (·.nanos)).sum) ∧
      ∃ n, m.playback.ticks = r.playback.ticks + n ∧
        m'.playback.ticks = r'.playback.ticks + n := by
  intro m m'
  have hplay := encore_play h h' hstopped hstopped' hsettings hviewport hprogram hstage hend hend'
  have hclock : r.play.playback.clock.nanos = r.playback.clock.nanos + 0 := by
    rw [play_of_stopped hstopped]
    exact congrArg (·.nanos) (clock_sync r)
  obtain ⟨hencore, hlast⟩ := hplay.advances (invariant_orderly.play (invariant_orderly.reachable h))
    (invariant_orderly.play (invariant_orderly.reachable h')) hclock dts (by omega)
  have hviews : m'.playback.views = m.playback.views := by
    rw [Playback.views_eq, Playback.views_eq, ids_of_unsigned hencore.seen, hencore.cast]
  rw [Nat.zero_add] at hlast
  obtain ⟨elapsed, hnow, hnow'⟩ := hencore.since
  have helapsed : elapsed = (dts.map (·.nanos)).sum := by omega
  rw [helapsed] at hnow'
  exact ⟨hviews, hencore.cast, hencore.highlighted, hencore.swapLocked, hencore.program,
    ⟨hlast, hnow'⟩, hencore.ticks⟩

/-- A stage without actors is set up with the sprites at home. -/
theorem pose_sync_of_empty {p : Playback} (h : p.Follows) (hempty : ∀ id, p.cast.get? id = none)
    (sprites : List Sprite) (id : SpriteId) :
    ((p.sync sprites).cast.get? id).map Actor.pose =
      (sprites.find? (·.id = id)).map fun s => (Actor.home s).pose := by
  cases hfind : sprites.find? (·.id = id) with
  | none =>
    have hbody := h.body_sync sprites id
    rw [hfind, Option.map_none, Option.map_eq_none_iff] at hbody
    rw [hbody]
    rfl
  | some s =>
    rw [h.get?_sync_of_newcomer (hempty id) hfind]
    rfl

/-- The program of two sprites that meet is played for the first time, and it is played again after
a session in which they have met and after which the stage has been cleared. -/
theorem sessions_play_alike_encounter :
    let calls : List Call := [.advance (.ofMillis 700), .stop, .edit ⟨{}, []⟩, .sync,
      .edit .encounter, .resize ⟨600.0, 400.0⟩]
    let r := (fresh {} 7 .encounter).call (.resize ⟨600.0, 400.0⟩)
    let r' := (fresh {} 9 .encounter).play.after calls
    let dts : List Duration := [.ofMillis 700, .ofMillis 300]
    let m := dts.foldl Run.advance r.play
    let m' := dts.foldl Run.advance r'.play
    (Reachable r ∧ Reachable r' ∧ r.playback.isRunning = false ∧ r'.playback.isRunning = false ∧
      r.playback.swapLocked = false ∧ r'.playback.swapLocked = true ∧
      r'.playback.settings = r.playback.settings ∧ r'.playback.viewport = r.playback.viewport ∧
      r'.program = r.program ∧
      ∀ id, (r'.sync.playback.cast.get? id).map Actor.pose =
        (r.sync.playback.cast.get? id).map Actor.pose) ∧
    m'.playback.views = m.playback.views ∧ m'.playback.cast = m.playback.cast ∧
      m'.playback.highlighted = m.playback.highlighted ∧
      m'.playback.swapLocked = m.playback.swapLocked ∧ m'.program = m.program ∧
      m.playback.clock.nanos = 1000000000 ∧ m'.playback.clock.nanos = 1700000000 ∧
      ∃ n, m.playback.ticks = r.playback.ticks + n ∧
        m'.playback.ticks = r'.playback.ticks + n := by
  intro calls r r' dts m m'
  let first := (fresh {} 9 .encounter).play
  let ended := (first.advance (.ofMillis 700)).playback.stop
  let cleared := ended.sync []
  have hr' : r' = ⟨cleared.resize ⟨600.0, 400.0⟩, .encounter⟩ := rfl
  have hplay : Reachable first := (Reachable.fresh {} 9 .encounter).call .play
  have h : Reachable r := (Reachable.fresh {} 7 .encounter).call _
  have h' : Reachable r' := hplay.after calls
  have halike : Playback.Alike ended cleared := Playback.alike_sync ended []
  have hstopped : cleared.isRunning = false :=
    (isRunning_playback_sync ended []).trans (isRunning_stop _)
  have hsettings : cleared.settings = {} :=
    halike.settings.trans ((settings_call _ .stop).trans (settings_call first (.advance _)))
  have hclock : cleared.clock = .ofMillis 700 := by
    have hstop : ∀ p : Playback, p.stop.clock = p.clock := by
      intro p
      unfold Playback.stop
      split <;> rfl
    rw [halike.clock, hstop]
    show first.playback.clock + .ofMillis 700 = .ofMillis 700
    decide
  have hlocked : cleared.swapLocked = true := by
    have hswaps : (⟨1⟩, ⟨2⟩) ∈ (ticksWithin (first.playback.clock + .ofMillis 700) 2
        first.sync).filterMap swapped? := by
      decide +kernel
    obtain ⟨t, ht, hswap⟩ := List.mem_filterMap.1 hswaps
    have hmeets : t.Meets := (exists_swapped?_iff.1 ⟨_, hswap⟩).2
    rw [halike.swapLocked, swapLocked_stop]
    exact (plays_advance first (.ofMillis 700)).locked.2
      (Or.inr ⟨t, mem_ticksBy_of_mem_ticksWithin ht, hmeets⟩)
  have hempty : ∀ id, cleared.cast.get? id = none := by
    intro id
    have hended : ended.Follows :=
      invariant_follows.reachable ((hplay.call (.advance (.ofMillis 700))).call .stop)
    rw [← Option.not_isSome_iff_eq_none, Option.isSome_iff_exists]
    rintro ⟨a, ha⟩
    exact absurd ((hended.mem_ids_sync [] id).1 (Cast.mem_ids_iff.2 ⟨a, ha⟩)) List.not_mem_nil
  -- from here on it does not matter how the stage has been cleared
  clear_value r'
  subst hr'
  clear_value cleared
  have hstage : ∀ id,
      ((Run.mk (cleared.resize ⟨600.0, 400.0⟩) .encounter).sync.playback.cast.get? id).map
        Actor.pose = (r.sync.playback.cast.get? id).map Actor.pose := by
    intro id
    have hhome' := pose_sync_of_empty (invariant_follows.reachable h') hempty
      Program.encounter.sprites id
    have hhome := pose_sync_of_empty (invariant_follows.reachable h) (fun _ => rfl)
      Program.encounter.sprites id
    exact hhome'.trans hhome.symm
  have hend' : cleared.clock.nanos + (dts.map (·.nanos)).sum < Duration.longest.nanos := by
    rw [hclock]
    decide
  obtain ⟨hviews, hcast, hhighlighted, hlock, hprogram, ⟨hnow, hnow'⟩, hticks⟩ :=
    sessions_play_alike h h' rfl hstopped hsettings rfl rfl hstage dts (by decide) hend'
  have hlast : cleared.clock.nanos + (dts.map (·.nanos)).sum = 1700000000 := by
    rw [hclock]
    decide
  exact ⟨⟨h, h', rfl, hstopped, rfl, hlocked, hsettings, rfl, rfl, hstage⟩, hviews, hcast,
    hhighlighted, hlock, hprogram, hnow.trans (by decide), hnow'.trans hlast, hticks⟩

end Run

end SpriteStage
