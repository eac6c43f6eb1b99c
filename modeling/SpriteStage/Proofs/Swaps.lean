import SpriteStage.Proofs.Meetings
import SpriteStage.Proofs.Sessions

/-!
# One swap in a session

The ticks of a session are listed as they come (`ticksDuring`), each as the run in which it fires.
The lock is closed on a tick exactly if two sprites were close on an earlier one (`Latches`), and
the program changes only by what ticks swap (`Plays`). So a session swaps once, on the first tick on
which two sprites are close, and never again while the lock is closed (`one_swap_per_session`).
-/

namespace SpriteStage

namespace Run

variable {r m n : Run} {fired : Fired TimedEvent} {left : Queue TimedEvent}

/-! ## Ticks as they come -/

/-- The tick that fires with a timer, if the timer is a tick of the session that is on: the run with
the timer taken out, at the timer's time. -/
def ticksAt (r : Run) (fired : Fired TimedEvent) (left : Queue TimedEvent) : List Run :=
  if fired.event = .tick ∧ r.playback.session? = some fired.owner then [r.taken fired left] else []

/-- The ticks among some firings. -/
def ticksAmong (fs : List Firing) : List Run :=
  fs.flatMap fun f => f.run.ticksAt f.timer f.left

/-- The ticks that fire by a time, one after the other. -/
def ticksBy (target : Duration) (r : Run) : List Run := ticksAmong (firings target r)

/-- The ticks of a call. -/
def ticksIn (r : Run) : Call → List Run
  | .advance dt => ticksBy (r.playback.clock + dt) r.sync
  | _ => []

/-- The ticks of one call after the other. -/
def ticksDuring (r : Run) : List Call → List Run
  | [] => []
  | c :: rest => r.ticksIn c ++ (r.call c).ticksDuring rest

/-! ## The lock along ticks -/

/-- Along ticks, the lock is closed exactly if `locked` held before them or two sprites were close
on an earlier one. -/
def Locks (locked : Prop) : List Run → Prop
  | [] => True
  | t :: rest => (t.playback.swapLocked = true ↔ locked) ∧ Locks (locked ∨ t.Meets) rest

/-- Along two lists of ticks, what the first one leads to is where the second one begins. -/
theorem locks_append {locked : Prop} {first second : List Run} :
    Locks locked (first ++ second) ↔
      Locks locked first ∧ Locks (locked ∨ ∃ t ∈ first, t.Meets) second := by
  induction first generalizing locked with
  | nil => simp [Locks]
  | cons t rest ih =>
    have hmeets : (locked ∨ t.Meets) ∨ (∃ u ∈ rest, u.Meets) ↔
        locked ∨ ∃ u ∈ t :: rest, u.Meets := by
      rw [List.exists_mem_cons_iff, or_assoc]
    rw [List.cons_append, Locks, Locks, ih, propext hmeets, and_assoc]

/-- The tick that finds the lock open and two sprites close is the first one with such sprites. -/
theorem Locks.swapped_iff_first {before later : List Run} {t : Run}
    (h : Locks False (before ++ t :: later)) :
    (∃ pair, t.swapped? = some pair) ↔ t.Meets ∧ ∀ u ∈ before, ¬ u.Meets := by
  obtain ⟨hlock, -⟩ := (locks_append.1 h).2
  have hopen : t.playback.swapLocked = false ↔ ∀ u ∈ before, ¬ u.Meets := by
    rw [← Bool.not_eq_true, hlock]
    simp
  rw [exists_swapped?_iff, hopen, and_comm]

/-- Along ticks there is one swap at most, and none if the lock was closed before them. -/
theorem Locks.swaps_cases {locked : Prop} {ticks : List Run} (h : Locks locked ticks) :
    ticks.filterMap swapped? = [] ∨
      ¬ locked ∧ (∃ t ∈ ticks, t.Meets) ∧ ∃ pair, ticks.filterMap swapped? = [pair] := by
  induction ticks generalizing locked with
  | nil => exact Or.inl rfl
  | cons t rest ih =>
    obtain ⟨hlock, hrest⟩ := h
    have hswaps := exists_swapped?_iff (r := t)
    cases hpair : t.swapped? with
    | none =>
      rw [List.filterMap_cons_none hpair]
      rcases ih hrest with hnone | ⟨hopen, ⟨u, hu, hmeets⟩, hone⟩
      · exact Or.inl hnone
      · exact Or.inr ⟨fun hl => hopen (Or.inl hl), ⟨u, List.mem_cons_of_mem t hu, hmeets⟩, hone⟩
    | some pair =>
      -- the lock is closed from here on
      obtain ⟨hopen, hmeets⟩ := hswaps.1 ⟨pair, hpair⟩
      rw [← Bool.not_eq_true, hlock] at hopen
      rw [List.filterMap_cons_some hpair]
      rcases ih hrest with hnone | ⟨hopen', -⟩
      · rw [hnone]
        exact Or.inr ⟨hopen, ⟨t, List.mem_cons_self, hmeets⟩, pair, rfl⟩
      · exact absurd (Or.inr hmeets) hopen'

/-- From `r` to `m` these ticks fire, and the lock opens for none of them. -/
structure Latches (r m : Run) (ticks : List Run) : Prop where
  locks : Locks (r.playback.swapLocked = true) ticks
  locked : m.playback.swapLocked = true ↔
    r.playback.swapLocked = true ∨ ∃ t ∈ ticks, t.Meets

/-- The program after pairs of sprites have swapped, one after the other. -/
def swapAll (p : Program) (pairs : List (SpriteId × SpriteId)) : Program :=
  pairs.foldl (fun p pair => p.swapScripts pair.1 pair.2) p

/-- From `r` to `m` these ticks fire, and the program changes by nothing but their swaps. -/
structure Plays (r m : Run) (ticks : List Run) : Prop extends Latches r m ticks where
  program : m.program = swapAll r.program (ticks.filterMap swapped?)

/-- First some ticks and then others: the lock goes on from where it was. -/
theorem Latches.trans {first second : List Run} (h : Latches r m first)
    (h' : Latches m n second) : Latches r n (first ++ second) where
  locks := locks_append.2 ⟨h.locks, propext h.locked ▸ h'.locks⟩
  locked := by
    rw [h'.locked, h.locked, or_assoc, ← exists_or]
    simp only [List.mem_append, or_and_right]

/-- First some ticks and then others: the program changes by the swaps of both. -/
theorem Plays.trans {first second : List Run} (h : Plays r m first) (h' : Plays m n second) :
    Plays r n (first ++ second) where
  toLatches := h.toLatches.trans h'.toLatches
  program := by
    rw [h'.program, h.program, List.filterMap_append, swapAll, swapAll, swapAll,
      List.foldl_append]

/-- Where nothing ticks, lock and program stay as they are. -/
theorem plays_nil (hlock : m.playback.swapLocked = r.playback.swapLocked)
    (hprogram : m.program = r.program) : Plays r m [] where
  locks := trivial
  locked := by simp [hlock]
  program := hprogram

/-- A tick swaps what it finds close, if the lock is open. -/
theorem plays_tick (r : Run) (session : Token) : Plays r (r.tick session) [r] where
  locks := ⟨Iff.rfl, trivial⟩
  locked := by
    rw [swapLocked_tick_iff]
    simp
  program := by
    rw [tick_eq_swapped?]
    cases hpair : r.swapped? with
    | none => simp [hpair, swapAll, acted]
    | some pair => simp [hpair, swapAll, acted, swap_eq]

/-- A look at the program is no tick, and opens nothing and swaps nothing. -/
theorem plays_sync (r : Run) : Plays r r.sync [] :=
  plays_nil (swapLocked_sync _ _) rfl

/-- What fires is a tick, or lock and program stay as they are. -/
theorem plays_firedBy (r : Run) (fired : Fired TimedEvent) (left : Queue TimedEvent) :
    Plays r (r.firedBy fired left) (r.ticksAt fired left) := by
  unfold ticksAt
  by_cases htick : fired.event = .tick ∧ r.playback.session? = some fired.owner
  · rw [if_pos htick, firedBy_tick htick.2 htick.1]
    have htaken : Plays r (r.taken fired left) [] := plays_nil rfl rfl
    exact htaken.trans (plays_tick _ _)
  · rw [if_neg htick]
    unfold firedBy fire
    cases hmode : r.playback.mode with
    | stopped => exact plays_nil (by simp only [hmode]) (by simp only [hmode])
    | running session schedule =>
      have hother : fired.event = .tick → fired.owner ≠ session := by
        intro hevent howner
        apply htick
        rw [Playback.session?, hmode, howner]
        exact ⟨hevent, rfl⟩
      cases hevent : fired.event with
      | tick =>
        simp only [hmode, if_neg (hother hevent)]
        exact plays_nil rfl rfl
      | clearHighlight =>
        simp only [hmode]
        split <;> exact plays_nil rfl rfl
      | bubble sprite bubble =>
        simp only [hmode]
        split <;> exact plays_nil rfl rfl

/-- A drain plays its ticks, one firing after the other. -/
theorem plays_drain (target : Duration) (r : Run) :
    Plays r (drain target r) (ticksBy target r) := by
  induction r using drain_induction target with
  | hdone r h =>
    rw [drain_of_none h, ticksBy, firings_of_none h]
    exact plays_nil rfl rfl
  | hfire r fired left h ih =>
    rw [drain_of_some h, ticksBy, firings_of_some h]
    exact (plays_firedBy r fired left).trans ih

/-- So does the passing of time, for the clock changes neither lock nor program. -/
theorem plays_advance (r : Run) (dt : Duration) :
    Plays r (r.advance dt) (r.ticksIn (.advance dt)) := by
  have hdrain := (plays_sync r).trans (plays_drain (r.playback.clock + dt) r.sync)
  have harrive : Plays (drain (r.playback.clock + dt) r.sync) (r.advance dt) [] :=
    plays_nil rfl rfl
  simpa only [ticksIn, List.nil_append, List.append_nil] using hdrain.trans harrive

/-- **What the passing of time does to the program.** Nothing, or the lock closes and two sprites
swap their scripts. -/
theorem program_advance_cases (r : Run) (dt : Duration) :
    (r.advance dt).program = r.program ∨
      r.playback.swapLocked = false ∧ (r.advance dt).playback.swapLocked = true ∧
        ∃ a b, (r.advance dt).program = r.program.swapScripts a b := by
  have hplays := plays_advance r dt
  rcases hplays.locks.swaps_cases with hnone | ⟨hopen, hmeets, ⟨a, b⟩, hone⟩
  · refine Or.inl ?_
    rw [hplays.program, hnone]
    rfl
  · refine Or.inr ⟨by simpa using hopen, hplays.locked.2 (Or.inr hmeets), a, b, ?_⟩
    rw [hplays.program, hone]
    rfl

/-! ## Ticks that can be computed -/

/-- The ticks among the next so many firings. -/
def ticksWithin (target : Duration) (k : ℕ) (r : Run) : List Run :=
  ticksAmong (firingsWithin target k r)

theorem mem_ticksBy_of_mem_ticksWithin {target : Duration} {k : ℕ} {t : Run}
    (h : t ∈ ticksWithin target k r) : t ∈ ticksBy target r := by
  obtain ⟨f, hf, ht⟩ := List.mem_flatMap.1 h
  rw [firingsWithin_eq_take] at hf
  exact List.mem_flatMap.2 ⟨f, List.mem_of_mem_take hf, ht⟩

/-- If one of the next firings swaps two sprites, then this is what happens to the program as time
passes. -/
theorem program_advance_of_swap {dt : Duration} {a b : SpriteId} (k : ℕ)
    (h : (a, b) ∈ (ticksWithin (r.playback.clock + dt) k r.sync).filterMap swapped?) :
    (r.advance dt).program = r.program.swapScripts a b := by
  have hplays := plays_advance r dt
  have hmem : (a, b) ∈ (r.ticksIn (.advance dt)).filterMap swapped? := by
    obtain ⟨t, ht, hswap⟩ := List.mem_filterMap.1 h
    exact List.mem_filterMap.2 ⟨t, mem_ticksBy_of_mem_ticksWithin ht, hswap⟩
  rcases hplays.locks.swaps_cases with hnone | ⟨-, -, pair, hone⟩
  · rw [hnone] at hmem
    exact absurd hmem List.not_mem_nil
  · rw [hone, List.mem_singleton] at hmem
    rw [hplays.program, hone, ← hmem]
    rfl

/-! ## Calls -/

/-- The call is an edit of the program from outside. -/
def Call.Edits (c : Call) : Prop := ∃ program, c = .edit program

/-- The call ends a session. -/
def Call.Ends (c : Call) : Prop := c = .stop ∨ c = .setPlaying false

/-- The call begins a session. -/
def Begins (r : Run) (c : Call) : Prop :=
  r.playback.isRunning = false ∧ (c = .play ∨ c = .setPlaying true)

theorem play_of_running (h : r.playback.isRunning = true) : r.play = r := by
  unfold play
  rw [h]
  rfl

theorem play_of_stopped (h : r.playback.isRunning = false) :
    r.play = { r with playback := r.sync.playback.start } := by
  unfold play
  rw [h]
  rfl

theorem program_play (r : Run) : r.play.program = r.program := by
  unfold play
  split <;> rfl

theorem swapLocked_stop (p : Playback) : p.stop.swapLocked = p.swapLocked := by
  unfold Playback.stop
  split <;> rfl

theorem swapLocked_click (p : Playback) (c : Click) :
    (p.click c).swapLocked = p.swapLocked := by
  obtain ⟨stamp, hues, cast, heq, -⟩ := p.click_eq c
  rw [heq]

theorem isRunning_stop (p : Playback) : p.stop.isRunning = false := by
  rw [Playback.isRunning_eq_false_iff]
  unfold Playback.stop
  split
  · assumption
  · rfl

theorem settings_play (r : Run) : r.play.playback.settings = r.playback.settings := by
  unfold play
  split
  · rfl
  · exact (Playback.alike_sync _ _).settings

/-- No call changes the settings. -/
theorem settings_call (r : Run) (c : Call) :
    (r.call c).playback.settings = r.playback.settings := by
  have hstop : r.playback.stop.settings = r.playback.settings := by
    unfold Playback.stop
    split <;> rfl
  cases c with
  | sync => exact (Playback.alike_sync _ _).settings
  | play => exact settings_play r
  | stop => exact hstop
  | setPlaying on =>
    cases on with
    | false => exact hstop
    | true => exact settings_play r
  | advance dt =>
    refine forall_drain (P := fun m => m.playback.settings = r.playback.settings) ?_
      (Playback.alike_sync _ _).settings
    intro m fired left hm _
    rw [settings_firedBy, hm]
  | click c =>
    obtain ⟨stamp, hues, cast, heq, -⟩ := r.playback.click_eq c
    show (r.playback.click c).settings = r.playback.settings
    rw [heq]
  | _ => rfl

/-- Calls leave the settings as they are. -/
theorem settings_after (r : Run) (calls : List Call) :
    (r.after calls).playback.settings = r.playback.settings := by
  induction calls generalizing r with
  | nil => rfl
  | cons c rest ih => exact (ih (r.call c)).trans (settings_call r c)

/-- A call that neither edits the program nor begins a session changes the program and the lock by
what its ticks swap. -/
theorem plays_call {c : Call} (hedits : ¬ c.Edits) (hbegins : ¬ r.Begins c) :
    Plays r (r.call c) (r.ticksIn c) := by
  have hplay : (c = .play ∨ c = .setPlaying true) → r.play = r := by
    intro hc
    apply play_of_running
    rw [← Bool.not_eq_false]
    exact fun hstopped => hbegins ⟨hstopped, hc⟩
  cases c with
  | edit program => exact absurd ⟨program, rfl⟩ hedits
  | resize viewport => exact plays_nil rfl rfl
  | sync => exact plays_sync r
  | play =>
    show Plays r r.play []
    rw [hplay (Or.inl rfl)]
    exact plays_nil rfl rfl
  | stop => exact plays_nil (swapLocked_stop _) rfl
  | setPlaying on =>
    cases on with
    | false => exact plays_nil (swapLocked_stop _) rfl
    | true =>
      show Plays r r.play []
      rw [hplay (Or.inr rfl)]
      exact plays_nil rfl rfl
  | advance dt => exact plays_advance r dt
  | click c => exact plays_nil (swapLocked_click _ _) rfl

/-- A session that is on goes on with every call that does not end it. -/
theorem isRunning_call (h : r.playback.isRunning = true) {c : Call} (hends : ¬ c.Ends) :
    (r.call c).playback.isRunning = true := by
  cases c with
  | edit program => exact h
  | resize viewport => exact h
  | sync => exact (isRunning_playback_sync _ _).trans h
  | play =>
    show r.play.playback.isRunning = true
    rw [play_of_running h]
    exact h
  | stop => exact absurd (Or.inl rfl) hends
  | setPlaying on =>
    cases on with
    | false => exact absurd (Or.inr rfl) hends
    | true =>
      show r.play.playback.isRunning = true
      rw [play_of_running h]
      exact h
  | advance dt => exact (isRunning_advance r dt).trans h
  | click c =>
    obtain ⟨stamp, hues, cast, heq, -⟩ := r.playback.click_eq c
    show (r.playback.click c).isRunning = true
    rw [heq]
    exact h

/-- A session is on until a call ends it. -/
theorem isRunning_after {calls : List Call} (h : r.playback.isRunning = true)
    (hsession : ∀ c ∈ calls, ¬ c.Ends) : (r.after calls).playback.isRunning = true := by
  induction calls generalizing r with
  | nil => exact h
  | cons c rest ih =>
    obtain ⟨hends, hrest⟩ := List.forall_mem_cons.1 hsession
    exact ih (isRunning_call h hends) hrest

/-- In a session every call leaves the lock to the ticks. -/
theorem latches_call (h : r.playback.isRunning = true) (c : Call) :
    Latches r (r.call c) (r.ticksIn c) := by
  by_cases hedits : c.Edits
  · obtain ⟨program, rfl⟩ := hedits
    exact ⟨trivial, by simp [ticksIn, call]⟩
  · refine (plays_call hedits ?_).toLatches
    rintro ⟨hstopped, -⟩
    rw [h] at hstopped
    simp at hstopped

/-- As long as a session lasts, its lock is closed by its ticks only and is not opened. -/
theorem latches_after {calls : List Call} (h : r.playback.isRunning = true)
    (hsession : ∀ c ∈ calls, ¬ c.Ends) :
    Latches r (r.after calls) (r.ticksDuring calls) := by
  induction calls generalizing r with
  | nil => exact ⟨trivial, by simp [ticksDuring, after]⟩
  | cons c rest ih =>
    obtain ⟨hends, hrest⟩ := List.forall_mem_cons.1 hsession
    exact (latches_call h c).trans (ih (isRunning_call h hends) hrest)

/-! ## Ticks and the stage -/

/-- What every firing keeps holds of all ticks by a time, if it holds when a timer is taken out. -/
theorem forall_ticksBy {target : Duration} {P : Run → Prop}
    (htaken : ∀ r fired left, P r → P (taken r fired left))
    (hfire : ∀ r fired left, P r → P (firedBy r fired left)) (r : Run) :
    P r → ∀ t ∈ ticksBy target r, P t := by
  intro hr t ht
  obtain ⟨f, hf, ht⟩ := List.mem_flatMap.1 ht
  obtain ⟨hrun, -⟩ := forall_firings (fun m fired left hm _ => hfire m fired left hm) r hr f hf
  unfold ticksAt at ht
  split at ht
  · rw [List.mem_singleton.1 ht]
    exact htaken _ _ _ hrun
  · exact absurd ht List.not_mem_nil

/-- All ticks that fire find the sprites of the program on the stage. -/
theorem Staged.of_mem_ticksBy (target : Duration) (r : Run) :
    Staged r → ∀ t ∈ ticksBy target r, Staged t :=
  forall_ticksBy (fun _ _ _ h => ⟨h.unique, h.follows, h.seen⟩)
    (fun _ fired left h => h.firedBy fired left) r

/-- All ticks of a call find the sprites of the program on the stage. -/
theorem Staged.of_mem_ticksIn (hfollows : r.playback.Follows)
    (hids : (r.program.sprites.map (·.id)).Nodup) {c : Call} :
    ∀ t ∈ r.ticksIn c, Staged t := by
  intro t ht
  cases c with
  | advance dt => exact Staged.of_mem_ticksBy _ _ (staged_sync hfollows hids) t ht
  | _ => exact absurd ht List.not_mem_nil

/-- Only edits change which sprites there are. -/
theorem ids_call {c : Call} (hedits : ¬ c.Edits) :
    (r.call c).program.sprites.map (·.id) = r.program.sprites.map (·.id) := by
  cases c with
  | edit program => exact absurd ⟨program, rfl⟩ hedits
  | advance dt => exact ids_advance r dt
  | play => exact congrArg (fun p : Program => p.sprites.map (·.id)) (program_play r)
  | setPlaying on =>
    cases on with
    | false => rfl
    | true => exact congrArg (fun p : Program => p.sprites.map (·.id)) (program_play r)
  | _ => rfl

/-- As long as edits give the sprites their own ids, all ticks find them on the stage. -/
theorem Staged.of_mem_ticksDuring {calls : List Call} (hfollows : r.playback.Follows)
    (hids : (r.program.sprites.map (·.id)).Nodup)
    (hedits : ∀ p : Program, .edit p ∈ calls → (p.sprites.map (·.id)).Nodup) :
    ∀ t ∈ r.ticksDuring calls, Staged t := by
  induction calls generalizing r with
  | nil =>
    intro t ht
    exact absurd ht List.not_mem_nil
  | cons c rest ih =>
    intro t ht
    rcases List.mem_append.1 ht with ht | ht
    · exact Staged.of_mem_ticksIn hfollows hids t ht
    · have hids' : ((r.call c).program.sprites.map (·.id)).Nodup := by
        by_cases hedit : c.Edits
        · obtain ⟨p, rfl⟩ := hedit
          exact hedits p List.mem_cons_self
        · rw [ids_call hedit]
          exact hids
      exact ih (invariant_follows.call hfollows c) hids'
        (fun p hp => hedits p (List.mem_cons_of_mem c hp)) t ht

/-! ## While the lock is closed -/

/-- While the lock is closed, no firing opens it or changes the program. -/
theorem swapLocked_firedBy (h : r.playback.swapLocked = true) (fired : Fired TimedEvent)
    (left : Queue TimedEvent) :
    (r.firedBy fired left).playback.swapLocked = true ∧
      (r.firedBy fired left).program = r.program := by
  apply firedBy_cases (P := fun m => m.playback.swapLocked = true ∧ m.program = r.program)
  · exact ⟨h, rfl⟩
  · have hlocked : (r.taken fired left).playback.swapLocked = true := h
    rw [tick_eq, if_pos hlocked]
    exact ⟨h, rfl⟩
  · exact ⟨h, rfl⟩
  · intro sprite bubble
    exact ⟨h, rfl⟩

/-- While the lock is closed, it stays so and the program does not change, until a call begins a
session or edits the program. -/
theorem locked_of_mem_trail (h : r.playback.swapLocked = true) {c : Call} :
    ∀ m ∈ r.trail c,
      (¬ r.Begins c → m.playback.swapLocked = true) ∧ (¬ c.Edits → m.program = r.program) := by
  intro m hm
  by_cases hadvance : ∃ dt, c = .advance dt
  · obtain ⟨dt, rfl⟩ := hadvance
    have hmoments : ∀ m ∈ r.moments dt, m.playback.swapLocked = true ∧ m.program = r.program := by
      apply forall_runsBy (P := fun m => m.playback.swapLocked = true ∧ m.program = r.program)
      · rintro m fired left ⟨hlocked, hprogram⟩ -
        have hfired := swapLocked_firedBy hlocked fired left
        exact ⟨hfired.1, hfired.2.trans hprogram⟩
      · exact ⟨(swapLocked_sync _ _).trans h, rfl⟩
    rcases List.mem_append.1 hm with hm | hm
    · exact ⟨fun _ => (hmoments m hm).1, fun _ => (hmoments m hm).2⟩
    · -- the last firing leads to what the clock then moves on from
      have hlast := hmoments (drain (r.playback.clock + dt) r.sync) (by
        rw [← getLast_runsBy]
        exact List.getLast_mem _)
      rw [List.mem_singleton.1 hm]
      exact ⟨fun _ => hlast.1, fun _ => hlast.2⟩
  · have hm : m = r.call c := by
      cases c with
      | advance dt => exact absurd ⟨dt, rfl⟩ hadvance
      | _ => exact List.mem_singleton.1 hm
    have hticks : r.ticksIn c = [] := by
      cases c with
      | advance dt => exact absurd ⟨dt, rfl⟩ hadvance
      | _ => rfl
    subst hm
    refine ⟨fun hbegins => ?_, fun hedits => ?_⟩
    · by_cases hedits : c.Edits
      · obtain ⟨p, rfl⟩ := hedits
        exact h
      · have hplays := plays_call hedits hbegins
        exact hplays.locked.2 (Or.inl h)
    · by_cases hbegins : r.Begins c
      · obtain ⟨-, rfl | rfl⟩ := hbegins
        · exact program_play r
        · exact program_play r
      · have hprogram := (plays_call hedits hbegins).program
        rw [hticks] at hprogram
        exact hprogram

/-- If the lock is closed in the first run, it is in the second. -/
def LockStays (m n : Run) : Prop :=
  m.playback.swapLocked = true → n.playback.swapLocked = true

instance : Trans LockStays LockStays LockStays := ⟨fun h h' hm => h' (h hm)⟩

/-- Only the beginning of a session opens the lock. -/
theorem lockStays_trail {c : Call} (hbegins : ¬ r.Begins c) :
    (r :: r.trail c).IsChain LockStays := by
  have hcall : ∀ m ∈ r.trail c, LockStays r m := by
    intro m hm hlocked
    exact (locked_of_mem_trail hlocked m hm).1 hbegins
  cases c with
  | advance dt =>
    refine isChain_trail_advance (hcall r.sync List.mem_cons_self) ?_ id
    intro m fired left hlocked
    exact (swapLocked_firedBy hlocked fired left).1
  | _ =>
    exact List.isChain_cons_cons.2 ⟨hcall _ List.mem_cons_self, List.isChain_singleton _⟩

theorem history_append (r : Run) (first second : List Call) :
    r.history (first ++ second) = r.history first ++ (r.after first).history second := by
  induction first generalizing r with
  | nil => rfl
  | cons c rest ih =>
    rw [List.cons_append, history, history, ih, List.append_assoc]
    rfl

/-- A history ends with the run that the calls lead to. -/
theorem history_concat (r : Run) (calls : List Call) :
    ∃ before, r :: r.history calls = before ++ [r.after calls] := by
  induction calls generalizing r with
  | nil => exact ⟨[], rfl⟩
  | cons c rest ih =>
    obtain ⟨before, htrail⟩ := r.trail_concat c
    obtain ⟨later, hrest⟩ := ih (r.call c)
    refine ⟨before ++ later, ?_⟩
    rw [history, ← List.cons_append, htrail, List.append_assoc, List.singleton_append, hrest,
      ← List.append_assoc]
    rfl

/-- A closed lock stays closed until a call begins a session. -/
theorem lockStays_history {calls : List Call}
    (hbegins : ∀ before c later, calls = before ++ c :: later → ¬ (r.after before).Begins c) :
    (r :: r.history calls).IsChain LockStays :=
  isChain_history fun before c later heq => lockStays_trail (hbegins before c later heq)

/-- In a session no call begins one. -/
theorem not_begins_of_session {calls : List Call} (h : r.playback.isRunning = true)
    (hsession : ∀ c ∈ calls, ¬ c.Ends) :
    ∀ before c later, calls = before ++ c :: later → ¬ (r.after before).Begins c := by
  rintro before c later rfl ⟨hstopped, -⟩
  have hrunning : (r.after before).playback.isRunning = true := by
    apply isRunning_after h
    intro d hd
    exact hsession d (List.mem_append_left _ hd)
  rw [hrunning] at hstopped
  simp at hstopped

/-- A session begins with the lock open. -/
theorem swapLocked_of_begins {c : Call} (h : r.Begins c) :
    (r.call c).playback.swapLocked = false := by
  obtain ⟨hstopped, rfl | rfl⟩ := h
  · show r.play.playback.swapLocked = false
    rw [play_of_stopped hstopped]
    rfl
  · show r.play.playback.swapLocked = false
    rw [play_of_stopped hstopped]
    rfl

theorem isRunning_play (r : Run) : r.play.playback.isRunning = true := by
  unfold play
  split
  · assumption
  · rfl

/-- **One swap in a session, and a real one.** After a session has begun on a program whose sprites
have their own ids, whatever is called and however the program is edited, as long as the sprites
keep ids of their own and no call ends the session:

* one tick swaps at most. It is the first one on which two sprites are close when the scripts have
  run, and then the first close pair exchange their scripts, are highlighted and are told of;
* nothing but such a swap and the edits changes the program;
* the lock is closed at the end exactly if there was such a tick, and once closed it stays closed
  until a call begins a session. While it is closed, no call but an edit changes the program. -/
theorem one_swap_per_session (h : Reachable r) (hstopped : r.playback.isRunning = false)
    (hids : (r.program.sprites.map (·.id)).Nodup) {calls : List Call}
    (hsession : ∀ c ∈ calls, ¬ c.Ends)
    (hedits : ∀ p : Program, .edit p ∈ calls → (p.sprites.map (·.id)).Nodup) :
    (((r.play.ticksDuring calls).filterMap swapped?).length ≤ 1 ∧
      ∀ before t later, r.play.ticksDuring calls = before ++ t :: later →
        ((∃ pair, t.swapped? = some pair) ↔ t.Meets ∧ ∀ u ∈ before, ¬ u.Meets) ∧
          ∀ session a b, t.swapped? = some (a, b) → t.Exchanges (t.tick session) a b) ∧
    (∀ before c later, calls = before ++ c :: later → ¬ c.Edits →
      ((r.play.after before).call c).program = swapAll (r.play.after before).program
        (((r.play.after before).ticksIn c).filterMap swapped?)) ∧
    ((r.play.after calls).playback.swapLocked = true ↔ ∃ t ∈ r.play.ticksDuring calls, t.Meets) ∧
    (∀ more, (∀ before c later, more = before ++ c :: later →
        ¬ ((r.play.after calls).after before).Begins c) →
      (r.play :: r.play.history (calls ++ more)).Pairwise fun m n =>
        m.playback.swapLocked = true → n.playback.swapLocked = true) ∧
    ∀ q : Run, q.playback.swapLocked = true → ∀ c, ¬ c.Edits → ∀ m ∈ q.trail c,
      m.program = q.program := by
  have hrunning := isRunning_play r
  have hopen : (r.play.playback.swapLocked = true) = False := by
    have hopen : r.play.playback.swapLocked = false := swapLocked_of_begins ⟨hstopped, Or.inl rfl⟩
    simp [hopen]
  have hlatches := latches_after hrunning hsession
  have hlocks := hlatches.locks
  rw [hopen] at hlocks
  have hstaged : ∀ t ∈ r.play.ticksDuring calls, Staged t := by
    refine Staged.of_mem_ticksDuring (invariant_follows.reachable (h.call .play)) ?_ hedits
    rw [program_play]
    exact hids
  refine ⟨⟨?_, ?_⟩, ?_, ?_, ?_, ?_⟩
  · rcases hlocks.swaps_cases with hnone | ⟨-, -, pair, hone⟩
    · rw [hnone]
      exact Nat.zero_le _
    · rw [hone]
      exact Nat.le_refl _
  · intro before t later hticks
    rw [hticks] at hlocks hstaged
    refine ⟨hlocks.swapped_iff_first, fun session a b hswap => ?_⟩
    exact (hstaged t (List.mem_append_right _ List.mem_cons_self)).exchanges session hswap
  · intro before c later hcalls hedit
    exact (plays_call hedit (not_begins_of_session hrunning hsession before c later hcalls)).program
  · rw [hlatches.locked, hopen, false_or]
  · intro more hbegins
    have hcalls := lockStays_history (not_begins_of_session hrunning hsession)
    have hmore := lockStays_history hbegins
    obtain ⟨before, hhistory⟩ := r.play.history_concat calls
    rw [hhistory] at hcalls
    have hchain := List.isChain_split.2 ⟨hcalls, hmore⟩
    rw [List.append_cons, ← hhistory, List.cons_append, ← history_append,
      List.isChain_iff_pairwise] at hchain
    exact hchain
  · intro q hlocked c hedit m hm
    exact (locked_of_mem_trail hlocked m hm).2 hedit

/-- A session on the program of two sprites that meet: they swap on its first tick, and the lock
that this closes holds out against playing again and against stopping. -/
theorem one_swap_per_session_encounter :
    let r := fresh {} 7 .encounter
    let calls : List Call := [.advance (.ofMillis 700), .play, .advance (.ofMillis 600)]
    let more : List Call := [.advance (.ofMillis 900), .stop, .sync]
    (Reachable r ∧ r.playback.isRunning = false ∧ (r.program.sprites.map (·.id)).Nodup ∧
      (∀ c ∈ calls, ¬ c.Ends) ∧
      ∀ p : Program, .edit p ∈ calls → (p.sprites.map (·.id)).Nodup) ∧
    ((r.play.ticksDuring calls).filterMap swapped?).length ≤ 1 ∧
    ((r.play.after calls).playback.swapLocked = true ↔
      ∃ t ∈ r.play.ticksDuring calls, t.Meets) ∧
    ((r.play :: r.play.history (calls ++ more)).Pairwise fun m n =>
      m.playback.swapLocked = true → n.playback.swapLocked = true) ∧
    (r.play.advance (.ofMillis 700)).program =
      Program.encounter.swapScripts ⟨1⟩ ⟨2⟩ := by
  intro r calls more
  have hids : (r.program.sprites.map (·.id)).Nodup := by decide
  have hends : ∀ c ∈ calls, ¬ c.Ends := by
    simp [calls, Call.Ends]
  have hedits : ∀ p : Program, .edit p ∈ calls → (p.sprites.map (·.id)).Nodup := by
    simp [calls]
  obtain ⟨⟨hone, -⟩, -, hlock, hkept, -⟩ :=
    one_swap_per_session (Reachable.fresh {} 7 .encounter) rfl hids hends hedits
  have hswap : (r.play.advance (.ofMillis 700)).program =
      r.play.program.swapScripts ⟨1⟩ ⟨2⟩ := by
    -- a bubble shows first, and then the first tick fires
    apply program_advance_of_swap 2
    decide +kernel
  refine ⟨⟨.fresh {} 7 .encounter, rfl, hids, hends, hedits⟩, hone, hlock, ?_, ?_⟩
  · apply hkept more
    rintro before c rest hmore ⟨-, hplays⟩
    have hc : c ∈ more := by
      rw [hmore]
      exact List.mem_append_right _ List.mem_cons_self
    rcases hplays with rfl | rfl <;> simp [more] at hc
  · rw [hswap, program_play]
    rfl

end Run

end SpriteStage
