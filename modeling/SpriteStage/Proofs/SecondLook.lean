import SpriteStage.Proofs.Additivity
import SpriteStage.Proofs.Firings
import SpriteStage.Proofs.Swaps
import SpriteStage.Proofs.Windows

/-!
# A second look

To look at the same sprites twice is to look once, while no session is on or as long as none of
their numbers is a NaN (`sync_sync_iff`). Sprites with a NaN are news on every look, and in a
session that begins their bubbles anew (`sync_of_nan`). Without a NaN the schedule of the bubbles is
disturbed by nothing but a swap as time passes (`undisturbed_history`), so that over any portions of
time every bubble is shown for its whole window (`second_look`).
-/

namespace SpriteStage

namespace Playback

variable {p : Playback} {sprites : List Sprite}

/-! ## Looking twice -/

/-- To take notice of the same sprites again changes nothing. -/
theorem noticed_noticed (p : Playback) (sprites : List Sprite) :
    (p.noticed sprites).noticed sprites = p.noticed sprites := by
  have hcast : (p.noticed sprites).cast.reconcile sprites = (p.noticed sprites).cast :=
    Cast.ext_get? (Cast.get?_reconcile_of_ids fun _ => Cast.mem_ids_reconcile)
  have hgone : (p.noticed sprites).cast.departed sprites = [] :=
    Cast.departed_eq_nil fun _ => Cast.mem_ids_reconcile.1
  generalize hq : p.noticed sprites = q at hcast hgone ⊢
  obtain rfl : q.seen = sprites := by rw [← hq]; rfl
  have hpair : q.highlighted.filter (fun _ => true) = q.highlighted := by
    cases q.highlighted <;> rfl
  rw [noticed, hcast, hgone]
  simp [hpair]

/-- **Sprites with a NaN are always news**: a look at them in a session begins their bubbles anew,
whatever was seen before. -/
theorem sync_of_nan {session schedule : Token} (hmode : p.mode = .running session schedule)
    (hnan : ¬ NoNaN sprites) :
    p.sync sprites = (p.noticed sprites).scheduleBubbles session := by
  have hnews : ¬ spritesAgree p.seen sprites = true := by
    intro hagree
    exact hnan (spritesAgree_self_iff_noNaN.1 (spritesAgree_self_of_spritesAgree hagree))
  exact sync_of_running (by simpa using hnews) hmode

/-- **When a second look changes nothing**: without a session always, and in a session exactly if
the sprites hold no NaN. -/
theorem sync_sync_iff (p : Playback) (sprites : List Sprite) :
    (p.sync sprites).sync sprites = p.sync sprites ↔ p.isRunning = false ∨ NoNaN sprites := by
  by_cases hnumbers : NoNaN sprites
  · have hagree := spritesAgree_seen_sync (spritesAgree_self_iff_noNaN.2 hnumbers) p
    have hagain : (p.sync sprites).sync sprites = p.sync sprites := sync_of_agree hagree
    simp [hagain, hnumbers]
  · cases hmode : p.mode with
    | stopped =>
      have hnews : ∀ q : Playback, q.mode = .stopped → q.sync sprites = q.noticed sprites := by
        intro q hq
        apply sync_cases (P := fun q' => q' = q.noticed sprites)
        · intro hagree
          exact absurd (spritesAgree_self_iff_noNaN.1 (spritesAgree_self_of_spritesAgree hagree))
            hnumbers
        · intro _
          rfl
        · intro session schedule hrunning
          simp [hq] at hrunning
      have hagain : (p.sync sprites).sync sprites = p.sync sprites := by
        rw [hnews p hmode, hnews (p.noticed sprites) hmode, noticed_noticed]
      simp [hagain, isRunning_eq_false_iff.2 hmode]
    | running session schedule =>
      -- each look takes a new token for the schedule
      have hlook := sync_of_nan hmode hnumbers
      have hnext : (p.sync sprites).mode = .running session p.lastToken.next := by
        rw [hlook]
        rfl
      have hagain : (p.sync sprites).sync sprites ≠ p.sync sprites := by
        intro heq
        have hmodes := congrArg Playback.mode heq
        rw [sync_of_nan hnext hnumbers, hnext] at hmodes
        have htokens := (Mode.running.inj hmodes).2
        rw [hlook] at htokens
        exact absurd (congrArg Token.number htokens) (Nat.succ_ne_self _)
      have hrunning : p.isRunning = true := isRunning_eq_true_iff.2 ⟨session, schedule, hmode⟩
      simp [hagain, hnumbers, hrunning]

/-- In a session a look at sprites with a NaN takes all bubbles away. -/
theorem bubble_sync_of_nan (hrunning : p.isRunning = true) (hnan : ¬ NoNaN sprites)
    (id : SpriteId) : ((p.sync sprites).cast.get? id).bind (·.bubble) = none := by
  obtain ⟨session, schedule, hmode⟩ := isRunning_eq_true_iff.1 hrunning
  rw [sync_of_nan hmode hnan]
  show (((p.noticed sprites).cast.clearBubbles).get? id).bind _ = none
  rw [Cast.get?_clearBubbles, Option.bind_map]
  cases (p.noticed sprites).cast.get? id <;> rfl

end Playback

namespace Run

variable {r m n : Run}

/-! ## Schedules that are not disturbed -/

/-- From `m` to `n` the lock does not open, and the schedule of the bubbles goes on unless it
closes. -/
structure Undisturbed (m n : Run) : Prop where
  lock : LockStays m n
  schedule : n.playback.schedule? = m.playback.schedule? ∨
    m.playback.swapLocked = false ∧ n.playback.swapLocked = true

/-- Where lock and mode stay the same, the schedule goes on undisturbed. -/
theorem undisturbed_of_eq (hlock : n.playback.swapLocked = m.playback.swapLocked)
    (hmode : n.playback.mode = m.playback.mode) : Undisturbed m n where
  lock := fun h => hlock.trans h
  schedule := Or.inl (by rw [Playback.schedule?, Playback.schedule?, hmode])

/-- A tick begins the bubbles anew only with a swap. -/
theorem undisturbed_tick (r : Run) (session : Token) : Undisturbed r (r.tick session) := by
  rw [tick_eq]
  split
  · exact undisturbed_of_eq rfl rfl
  · rename_i hopen
    split
    · rename_i a b _
      have hlocked := swapLocked_swap r.acted session a b
      exact ⟨fun _ => hlocked, Or.inr ⟨by simpa using hopen, hlocked⟩⟩
    · exact undisturbed_of_eq rfl rfl

/-- A firing without a swap leaves the schedule undisturbed. -/
theorem undisturbed_firedBy (r : Run) (fired : Fired TimedEvent) (left : Queue TimedEvent) :
    Undisturbed r (r.firedBy fired left) := by
  apply firedBy_cases (P := Undisturbed r)
  · exact undisturbed_of_eq rfl rfl
  · have htick := undisturbed_tick (r.taken fired left) fired.owner
    exact ⟨htick.lock, htick.schedule⟩
  · exact undisturbed_of_eq rfl rfl
  · intro sprite bubble
    exact undisturbed_of_eq rfl rfl

/-- Where the lock is the same at the end, the schedule has been the same throughout. -/
theorem schedule_of_chain {later : List Run} (h : (r :: later).IsChain Undisturbed)
    (hlock : ((r :: later).getLast (List.cons_ne_nil _ _)).playback.swapLocked =
      r.playback.swapLocked) :
    ∀ m ∈ later, m.playback.schedule? = r.playback.schedule? := by
  induction later generalizing r with
  | nil =>
    intro m hm
    exact absurd hm List.not_mem_nil
  | cons n rest ih =>
    obtain ⟨hfirst, hrest⟩ := List.isChain_cons_cons.1 h
    rw [List.getLast_cons (List.cons_ne_nil n rest)] at hlock
    -- the lock of what comes between lies between the two
    have hlater : LockStays n ((n :: rest).getLast (List.cons_ne_nil _ _)) := by
      have hlocks : ((n :: rest).IsChain LockStays) := hrest.imp fun _ _ h => h.lock
      rcases List.mem_cons.1 (List.getLast_mem (List.cons_ne_nil n rest)) with heq | hmem
      · rw [heq]
        exact id
      · exact List.rel_of_pairwise_cons (List.isChain_iff_pairwise.1 hlocks) hmem
    have hnext : n.playback.swapLocked = r.playback.swapLocked := by
      have hfirst := hfirst.lock
      unfold LockStays at hfirst hlater
      rw [hlock] at hlater
      exact Bool.eq_iff_iff.2 ⟨hlater, hfirst⟩
    have hschedule : n.playback.schedule? = r.playback.schedule? := by
      rcases hfirst.schedule with hgoes | ⟨hopen, hclosed⟩
      · exact hgoes
      · rw [hopen, hclosed] at hnext
        simp at hnext
    intro m hm
    rcases List.mem_cons.1 hm with rfl | hm
    · exact hschedule
    · exact (ih hrest (hlock.trans hnext.symm) m hm).trans hschedule

/-- The first portion of time may as well begin with a look at the program. -/
theorem advance_sync (h : NoNaN r.program.sprites) (dt : Duration) :
    r.sync.advance dt = r.advance dt := by
  have hself := spritesAgree_self_iff_noNaN.2 h
  rw [advance_eq, advance_eq, (upToDate_sync hself).sync_eq, clock_sync]

/-- While time passes on a program that has been seen, nothing but a swap disturbs the schedule. -/
theorem undisturbed_trail (h : UpToDate r) (dt : Duration) :
    (r :: r.trail (.advance dt)).IsChain Undisturbed := by
  refine isChain_trail_advance ?_ undisturbed_firedBy (undisturbed_of_eq rfl rfl)
  rw [h.sync_eq]
  exact undisturbed_of_eq rfl rfl

/-- Portions of time leave the program as it has been seen. -/
theorem UpToDate.after (h : UpToDate r) (dts : List Duration) :
    UpToDate (r.after (dts.map .advance)) := by
  induction dts generalizing r with
  | nil => exact h
  | cons dt rest ih =>
    have hdrain : UpToDate (Run.drain (r.playback.clock + dt) r.sync) := by
      rw [h.sync_eq]
      exact h.drain _
    exact ih (r := r.advance dt) ⟨hdrain.seen, hdrain.self⟩

/-- **Time disturbs no schedule.** Through any portions of time on a program that has been seen, the
schedule of the bubbles goes on from each moment to the next, unless the lock closes with a swap. -/
theorem undisturbed_history (h : UpToDate r) (dts : List Duration) :
    (r :: r.history (dts.map .advance)).IsChain Undisturbed := by
  apply isChain_history
  intro before c later heq
  obtain ⟨first, rest, -, rfl, hrest⟩ := List.map_eq_append_iff.1 heq
  obtain ⟨dt, rest, -, rfl, -⟩ := List.map_eq_cons_iff.1 hrest
  exact undisturbed_trail (h.after first) dt

/-! ## Whole windows -/

/-- A schedule that stays the same began when it did. -/
theorem scheduledAt_of_schedule {t : Duration} {later : List Run}
    (h : ∀ m ∈ later, m.playback.schedule? = r.playback.schedule?) :
    scheduledAt t r later = t := by
  induction later generalizing r with
  | nil => rfl
  | cons m rest ih =>
    obtain ⟨hm, hrest⟩ := List.forall_mem_cons.1 h
    rw [scheduledAt, if_pos hm]
    exact ih fun n hn => (hrest n hn).trans hm.symm

theorem after_concat (r : Run) (calls : List Call) (c : Call) :
    r.after (calls ++ [c]) = (r.after calls).call c := by
  rw [after, List.foldl_append]
  rfl

/-- Portions of time after a look at the program lead where they do without it. -/
theorem after_advance_sync (h : NoNaN r.program.sprites) (dts : List Duration) (dt : Duration) :
    (r.sync.after (dts.map .advance)).advance dt = (r.after (dts.map .advance)).advance dt := by
  cases dts with
  | nil => exact advance_sync h dt
  | cons first rest =>
    show ((r.sync.advance first).after (rest.map .advance)).advance dt =
      ((r.advance first).after (rest.map .advance)).advance dt
    rw [advance_sync h first]

theorem Staged.after (h : Staged r) (dts : List Duration) :
    Staged (r.after (dts.map .advance)) := by
  induction dts generalizing r with
  | nil => exact h
  | cons dt rest ih => exact ih (h.advance dt)

/-- If the lock is the same after portions of time, the bubbles are scheduled from where they
were. -/
theorem scheduled_after_advances {t : Duration} (h : UpToDate r) (horderly : r.playback.Orderly)
    (hfollows : r.playback.Follows) (hr : r.playback.Scheduled t) {dts : List Duration}
    (hlock : (r.after (dts.map .advance)).playback.swapLocked = r.playback.swapLocked) :
    (r.after (dts.map .advance)).playback.Scheduled t := by
  have hscheduled := scheduled_after (dts.map .advance) horderly hfollows hr
  obtain ⟨before, hconcat⟩ := r.history_concat (dts.map .advance)
  have hsame : ∀ m ∈ r.history (dts.map .advance),
      m.playback.schedule? = r.playback.schedule? := by
    apply schedule_of_chain (undisturbed_history h dts)
    simp only [hconcat, List.getLast_append_singleton]
    exact hlock
  rwa [scheduledAt_of_schedule hsame] at hscheduled

/-- The time is in the window of one of the speeches, with that bubble, counted from `t`. -/
def InWindow (t now : Duration) (speeches : List Speech) (b : Bubble) : Prop :=
  ∃ i, ∃ h : i < speeches.length, speeches[i].bubble = b ∧ t + beginsAt .zero speeches i ≤ now ∧
    now < t + beginsAt .zero speeches (i + 1)

/-- When time has passed on bubbles that are scheduled from `t`, each sprite seen shows what the
windows counted from there say. -/
theorem bubble_of_scheduled {t dt : Duration} (h : (r.advance dt).playback.Scheduled t)
    (hrunning : (r.advance dt).playback.isRunning = true)
    (hids : ((r.advance dt).playback.seen.map (·.id)).Nodup) {s : Sprite}
    (hs : s ∈ (r.advance dt).playback.seen) :
    ∃ a, (r.advance dt).playback.cast.get? s.id = some a ∧ ∀ b, a.bubble = some b ↔
      InWindow t (r.advance dt).playback.clock
        (s.script.speeches (r.advance dt).playback.settings.bubbleSeconds) b := by
  obtain ⟨session, schedule, hmode⟩ := Playback.isRunning_eq_true_iff.1 hrunning
  have hschedule : (r.advance dt).playback.schedule? = some schedule := by
    rw [Playback.schedule?, hmode]
  obtain ⟨past, rest, hcue⟩ := h schedule hschedule hids s hs
  obtain ⟨a, ha, hbubble⟩ := Option.map_eq_some_iff.1 hcue.bubble
  refine ⟨a, ha, fun b => ?_⟩
  have hcues := hcue.cues
  rw [Sprite.cues_eq] at hcues
  rw [hbubble]
  exact shown_eq_some_iff hcues hcue.due (lt_of_mem_rest hcue) b

/-- **A second look changes nothing** where the numbers are numbers. After any calls:

* to look at the same sprites twice is to look once, without a session always, and in a session
  exactly if the sprites hold no NaN;
* if the program holds no NaN, then through any portions of time the schedule of the bubbles goes on
  from each moment to the next, unless the lock closes with a swap;
* as long as no swap has closed the lock, every sprite of a program with ids of their own shows a
  bubble exactly in the bubble's window, counted from where the schedule had begun when the program
  was looked at before these portions of time. -/
theorem second_look {settings : PlaybackSettings} {seed : UInt64} {program : Program}
    {calls : List Call} {r : Run} (hr : r = (fresh settings seed program).after calls) :
    (∀ sprites, (r.playback.sync sprites).sync sprites = r.playback.sync sprites ↔
      r.playback.isRunning = false ∨ NoNaN sprites) ∧
    (NoNaN r.program.sprites → ∀ dts : List Duration,
      (r.sync :: r.sync.history (dts.map .advance)).IsChain Undisturbed) ∧
    (NoNaN r.program.sprites → (r.program.sprites.map (·.id)).Nodup →
      r.playback.isRunning = true → ∀ (dts : List Duration) (dt : Duration),
      let t₀ := scheduledAt .zero (fresh settings seed program)
        ((fresh settings seed program).history (calls ++ [.sync]))
      let m := (r.after (dts.map .advance)).advance dt
      m.playback.swapLocked = r.playback.swapLocked →
        ∀ s ∈ m.playback.seen, ∃ a, m.playback.cast.get? s.id = some a ∧
          ∀ b, a.bubble = some b ↔ InWindow t₀ m.playback.clock
            (s.script.speeches m.playback.settings.bubbleSeconds) b) := by
  refine ⟨fun sprites => r.playback.sync_sync_iff sprites, fun hnumbers dts => ?_, ?_⟩
  · exact undisturbed_history (upToDate_sync (spritesAgree_self_iff_noNaN.2 hnumbers)) dts
  · intro hnumbers hids hrunning dts dt t₀ m hlock s hs
    have hfresh : Reachable (fresh settings seed program) := .fresh _ _ _
    have hreach : Reachable r := hr ▸ hfresh.after calls
    have horderly := invariant_orderly.reachable (hreach.call .sync)
    have hfollows := invariant_follows.reachable (hreach.call .sync)
    have hlook : r.sync = (fresh settings seed program).after (calls ++ [.sync]) := by
      rw [after_concat, ← hr]
      rfl
    have hscheduled : r.sync.playback.Scheduled t₀ := by
      rw [hlook]
      exact scheduled_after _ (invariant_orderly.reachable hfresh)
        (invariant_follows.reachable hfresh) (Playback.scheduled_of_stopped rfl _)
    -- the portions of time may as well begin with the look
    have hm : m = r.sync.after ((dts ++ [dt]).map .advance) := by
      rw [List.map_append, List.map_singleton, after_concat]
      exact (after_advance_sync hnumbers dts dt).symm
    have hstaged : Staged m := by
      rw [hm]
      exact (staged_sync (invariant_follows.reachable hreach) hids).after _
    have hrunning : m.playback.isRunning = true := by
      rw [hm]
      apply isRunning_after ((isRunning_playback_sync _ _).trans hrunning)
      intro c hc
      obtain ⟨d, -, rfl⟩ := List.mem_map.1 hc
      simp [Call.Ends]
    have hwindows : m.playback.Scheduled t₀ := by
      rw [hm] at hlock ⊢
      apply scheduled_after_advances _ horderly hfollows hscheduled
      · exact hlock.trans (swapLocked_sync _ _).symm
      · exact upToDate_sync (spritesAgree_self_iff_noNaN.2 hnumbers)
    refine bubble_of_scheduled hwindows hrunning ?_ hs
    rw [hstaged.seen]
    exact hstaged.unique

/-- A session on the program of two sprites that meet, before they swap. -/
theorem second_look_encounter :
    let first := fresh {} 7 .encounter
    let r := first.after [.play]
    let t₀ := scheduledAt .zero first (first.history [.play, .sync])
    let m := r.advance (.ofMillis 400)
    (NoNaN r.program.sprites ∧ (r.program.sprites.map (·.id)).Nodup ∧
      r.playback.isRunning = true ∧ m.playback.swapLocked = r.playback.swapLocked) ∧
      (r.playback.sync r.program.sprites).sync r.program.sprites =
        r.playback.sync r.program.sprites ∧
      (r.sync :: r.sync.history [.advance (.ofMillis 400)]).IsChain Undisturbed ∧
      ∀ s ∈ m.playback.seen, ∃ a, m.playback.cast.get? s.id = some a ∧
        ∀ b, a.bubble = some b ↔ InWindow t₀ m.playback.clock
          (s.script.speeches m.playback.settings.bubbleSeconds) b := by
  intro first r t₀ m
  have hnumbers : NoNaN r.program.sprites := spritesAgree_self_iff_noNaN.1 (by decide)
  have hids : (r.program.sprites.map (·.id)).Nodup := by decide
  have hrunning : r.playback.isRunning = true := by decide
  have hlock : m.playback.swapLocked = r.playback.swapLocked := by
    have hdrain : (drainWithin? (r.playback.clock + .ofMillis 400) 2 r.sync).map
        (·.playback.swapLocked) = some r.playback.swapLocked := by
      decide +kernel
    obtain ⟨last, hlast, hsame⟩ := Option.map_eq_some_iff.1 hdrain
    have hm : m = last.atTime (r.playback.clock + .ofMillis 400) := by
      rw [← drain_eq_of_drainWithin? hlast]
      exact advance_eq r (.ofMillis 400)
    have hkept : ∀ t, (last.atTime t).playback.swapLocked = last.playback.swapLocked :=
      fun _ => rfl
    rw [hm, hkept]
    exact hsame
  obtain ⟨htwice, htime, hwindows⟩ := second_look (show r = first.after [.play] from rfl)
  exact ⟨⟨hnumbers, hids, hrunning, hlock⟩, (htwice _).2 (Or.inr hnumbers),
    htime hnumbers [.ofMillis 400], hwindows hnumbers hids hrunning [] (.ofMillis 400) hlock⟩

end Run

/-- A sprite whose bubble has a NaN for its seconds, which counts as none. -/
def Program.murmur : Program where
  stage := {}
  sprites := [⟨⟨1⟩, "Cat 1", 50.0, 50.0, [⟨⟨1⟩, .bubble .say (some "Hello") (some notANumber)⟩]⟩]

namespace Run

/-- In a session on a program with a NaN, its bubble has begun, and a look at the program, which has
not changed, takes it away. A second look begins the bubbles anew once more. -/
theorem second_look_murmur :
    let r := (fresh {} 7 .murmur).after [.play, .advance .zero]
    Reachable r ∧
      (r.playback.sync r.program.sprites).sync r.program.sprites ≠
        r.playback.sync r.program.sprites ∧
      (r.playback.cast.get? ⟨1⟩).bind (·.bubble) = some ⟨.say, "Hello"⟩ ∧
      (r.sync.playback.cast.get? ⟨1⟩).bind (·.bubble) = none := by
  intro r
  let start := (fresh {} 7 .murmur).play
  have hrunning : r.playback.isRunning = true := isRunning_advance start .zero
  have hlast : ∃ last, drainWithin? (start.playback.clock + .zero) 2 start.sync = some last ∧
      last.program = .murmur ∧
      (last.playback.cast.get? ⟨1⟩).bind (·.bubble) = some ⟨.say, "Hello"⟩ := by
    have hdrain : (drainWithin? (start.playback.clock + .zero) 2 start.sync).map
        (fun last => (last.program, (last.playback.cast.get? ⟨1⟩).bind (·.bubble))) =
          some (.murmur, some ⟨.say, "Hello"⟩) := by
      decide +kernel
    obtain ⟨last, hlast, hpair⟩ := Option.map_eq_some_iff.1 hdrain
    exact ⟨last, hlast, congrArg Prod.fst hpair, congrArg Prod.snd hpair⟩
  obtain ⟨last, hlast, hprogram, hbubble⟩ := hlast
  have hr : r = last.atTime (start.playback.clock + .zero) := by
    rw [← drain_eq_of_drainWithin? hlast]
    exact advance_eq start .zero
  have hnan : ¬ NoNaN r.program.sprites := by
    have hmurmur : r.program = .murmur := by
      rw [hr]
      exact hprogram
    rw [hmurmur, ← spritesAgree_self_iff_noNaN]
    decide
  refine ⟨(Reachable.fresh {} 7 .murmur).after _, ?_, ?_, ?_⟩
  · rw [Ne, Playback.sync_sync_iff, hrunning]
    simp [hnan]
  · rw [hr]
    exact hbubble
  · exact Playback.bubble_sync_of_nan hrunning hnan ⟨1⟩

end Run

end SpriteStage
