import SpriteStage.Proofs.Additivity
import SpriteStage.Proofs.Sessions

/-!
# Every portion of time ends

The timers that fire by a time are listed as they come (`Fires`): one after the other is taken out
and carried out, until none is due any more. From every run, whatever is pending, this comes to an
end, and to one end only (`fires_drain`, `Fires.unique`), which can be computed when there are few
firings (`drain_eq_of_drainWithin?`). In a session nothing fires late or out of order
(`Fires.times`), so that time passes from the present to the target and leaves nothing due
(`advance_ends`).
-/

namespace SpriteStage

namespace Run

/-- **The firings by a time.** From `r` these timers fire, one after the other, until nothing more
is due by the target, and then the run is `m`. -/
inductive Fires (target : Duration) : Run → List (Fired TimedEvent) → Run → Prop where
  | done {r : Run} (h : r.playback.queue.popDue? target = none) : Fires target r [] r
  | fire {r m : Run} {fired : Fired TimedEvent} {left : Queue TimedEvent}
      {later : List (Fired TimedEvent)} (h : r.playback.queue.popDue? target = some (fired, left))
      (rest : Fires target (r.firedBy fired left) later m) : Fires target r (fired :: later) m

variable {target : Duration} {r m n : Run} {fired later : List (Fired TimedEvent)}

/-! ## One end -/

/-- From every run the timers of its firings fire, and they lead to where a drain does. -/
theorem fires_drain (target : Duration) (r : Run) :
    Fires target r ((firings target r).map Firing.timer) (drain target r) := by
  induction r using drain_induction target with
  | hdone r h =>
    rw [drain_of_none h, firings_of_none h]
    exact .done h
  | hfire r first left h ih =>
    rw [drain_of_some h, firings_of_some h]
    exact .fire h ih

/-- There is one way only in which timers fire. -/
theorem Fires.unique (h : Fires target r fired m) (h' : Fires target r later n) :
    fired = later ∧ m = n := by
  induction h generalizing later with
  | done hnone =>
    cases h' with
    | done => exact ⟨rfl, rfl⟩
    | fire hsome => simp [hnone] at hsome
  | fire hsome _ ih =>
    cases h' with
    | done hnone => simp [hnone] at hsome
    | fire hsome' hrest' =>
      rw [hsome] at hsome'
      obtain ⟨rfl, rfl⟩ := Prod.mk.inj (Option.some.inj hsome')
      obtain ⟨rfl, rfl⟩ := ih hrest'
      exact ⟨rfl, rfl⟩

/-- What a drain leads to, if it ends with fewer than so many firings. -/
def drainWithin? (target : Duration) (k : ℕ) (r : Run) : Option Run :=
  let first := firingsWithin target k r
  if first.length < k then some ((r :: first.map Firing.result).getLast (List.cons_ne_nil _ _))
  else none

/-- A drain that is computed to its end is the drain. -/
theorem drain_eq_of_drainWithin? {k : ℕ} (h : drainWithin? target k r = some m) :
    drain target r = m := by
  simp only [drainWithin?, Option.ite_none_right_eq_some] at h
  obtain ⟨hfewer, hlast⟩ := h
  -- there are no firings but the first ones
  have hall : firingsWithin target k r = firings target r := by
    rw [firingsWithin_eq_take, List.length_take] at hfewer
    rw [firingsWithin_eq_take, List.take_of_length_le (by omega)]
  simp only [hall, Option.some.injEq] at hlast
  rw [← getLast_runsBy, ← hlast]
  rfl

/-! ## Times of firings -/

/-- What fires is due by the target. -/
theorem Fires.time_le (h : Fires target r fired m) : ∀ f ∈ fired, f.time ≤ target := by
  induction h with
  | done =>
    intro f hf
    exact absurd hf List.not_mem_nil
  | fire hsome _ ih =>
    intro f hf
    rcases List.mem_cons.1 hf with rfl | hf
    · exact Queue.time_le_of_popDue? hsome
    · exact ih f hf

/-- Nothing fires before the present time, and nothing before what fired earlier. -/
theorem Fires.times (h : Fires target r fired m) (horderly : r.playback.Orderly) :
    (∀ f ∈ fired, r.playback.clock ≤ f.time) ∧
      fired.Pairwise fun f g => f.time ≤ g.time := by
  -- the clock moves along with the firings, so what is to come is compared with the last one
  induction h with
  | done => exact ⟨fun f hf => absurd hf List.not_mem_nil, List.Pairwise.nil⟩
  | fire hsome _ ih =>
    obtain ⟨session, schedule, hserving⟩ := horderly.serving_of_popDue? hsome
    have hfirst := hserving.clock_le_of_popDue? hsome
    obtain ⟨hlater, hsorted⟩ := ih (horderly.firedBy hsome)
    rw [clock_firedBy] at hlater
    refine ⟨fun f hf => ?_, List.pairwise_cons.2 ⟨hlater, hsorted⟩⟩
    rcases List.mem_cons.1 hf with rfl | hf
    · exact hfirst
    · exact Nat.le_trans hfirst (hlater f hf)

/-! ## Portions of time -/

/-- What is pending when a drain has ended is due later. -/
theorem lt_due_of_mem_drain {t : Timer TimedEvent}
    (h : t ∈ (drain target r).playback.queue.timers) : target < t.due :=
  Queue.popDue?_eq_none_iff.1 (popDue?_drain target r) t h

/-- **Every portion of time ends.** From every run, whatever is pending and however often it
repeats, the firings by any time come to one end. When time passes in a reachable run, that end is
the run as it is when the clock has come to the target. What fires on the way fires in the order of
time, no earlier than the present and no later than the target, and what is still pending then is
due after the target. -/
theorem advance_ends (r : Run) (dt : Duration) :
    (∀ target, ∃ fired m, Fires target r fired m ∧
      ∀ fired' m', Fires target r fired' m' → fired' = fired ∧ m' = m) ∧
    (Reachable r →
      ∃ fired m, Fires (r.playback.clock + dt) r.sync fired m ∧
        r.advance dt = m.atTime (r.playback.clock + dt) ∧
        fired.Pairwise (fun f g => f.time ≤ g.time) ∧
        (∀ f ∈ fired, r.playback.clock ≤ f.time ∧ f.time ≤ r.playback.clock + dt) ∧
        (r.advance dt).playback.clock = r.playback.clock + dt ∧
        ∀ t ∈ (r.advance dt).playback.queue.timers, r.playback.clock + dt < t.due) := by
  refine ⟨fun target => ?_, fun h => ?_⟩
  · have hfires := fires_drain target r
    exact ⟨_, _, hfires, fun fired' m' h' => h'.unique hfires⟩
  · have hfires := fires_drain (r.playback.clock + dt) r.sync
    have horderly : r.sync.playback.Orderly := (invariant_orderly.reachable h).sync _
    obtain ⟨hpresent, hsorted⟩ := hfires.times horderly
    rw [clock_sync] at hpresent
    exact ⟨_, _, hfires, advance_eq r dt, hsorted,
      fun f hf => ⟨hpresent f hf, hfires.time_le f hf⟩, rfl, fun t ht => lt_due_of_mem_drain ht⟩

/-- A session on the program of two sprites that meet, while they swap and their bubbles are
scheduled anew. -/
theorem advance_ends_encounter :
    let r := (fresh {} 7 .encounter).play
    Reachable r ∧
      ∃ fired m, Fires (r.playback.clock + .ofMillis 700) r.sync fired m ∧
        r.advance (.ofMillis 700) = m.atTime (r.playback.clock + .ofMillis 700) ∧
        fired.Pairwise (fun f g => f.time ≤ g.time) ∧
        ∀ t ∈ (r.advance (.ofMillis 700)).playback.queue.timers,
          r.playback.clock + .ofMillis 700 < t.due := by
  intro r
  have h : Reachable r := (Reachable.fresh {} 7 .encounter).call .play
  obtain ⟨-, hends⟩ := advance_ends r (.ofMillis 700)
  obtain ⟨fired, m, hfires, hend, hsorted, -, -, hpending⟩ := hends h
  exact ⟨h, fired, m, hfires, hend, hsorted, hpending⟩

/-- A timer that repeats without an interval is not queued again when it has fired. -/
example : Queue.again? (⟨.ofMillis 500, ⟨1⟩, some .zero, .tick⟩ : Timer TimedEvent) = none := by
  decide

end Run

end SpriteStage
