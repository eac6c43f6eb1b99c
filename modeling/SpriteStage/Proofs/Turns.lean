import SpriteStage.Proofs.Timers

/-!
# Every turn of a timer comes once

A queue is used from its beginning on (`InUse.after`): timers are scheduled, tokens are cancelled,
and timers that are due are asked for. A `Ledger` keeps the same history without any order of
firing: it lists the pending turns as they were queued, each with the call that scheduled its timer
and with how many turns the timer has had, and looks all of them up when one is asked for. The queue
answers as the ledger does (`InUse.Follows`), since its timers are those of the ledger, arranged one
by one.

In the ledger, a timer whose token is not cancelled has its turns one after the other, each of them
once (`Ledger.Tracks`), at times that do not depend on when it was asked for them (`Timer.dueAt`).
-/

namespace SpriteStage

variable {ε : Type}

/-! ## A queue in use -/

/-- What a queue is used for. -/
inductive Use (ε : Type) where
  | schedule (due : Duration) (owner : Token) (event : ε)
  | scheduleRepeating (first every : Duration) (owner : Token) (event : ε)
  | cancel (owner : Token)
  | pop (now : Duration)
  deriving DecidableEq

/-- The timer that a use of the queue schedules. -/
def Use.timer? : Use ε → Option (Timer ε)
  | .schedule due owner event => some ⟨due, owner, none, event⟩
  | .scheduleRepeating first every owner event => some ⟨first, owner, some every, event⟩
  | .cancel _ => none
  | .pop _ => none

/-- A queue, and what it has returned up to now. -/
structure InUse (ε : Type) where
  queue : Queue ε
  returned : List (Fired ε)

/-- The queue after one more use. -/
def InUse.use (s : InUse ε) : Use ε → InUse ε
  | .schedule due owner event => { s with queue := s.queue.schedule due owner event }
  | .scheduleRepeating first every owner event =>
    { s with queue := s.queue.scheduleRepeating first every owner event }
  | .cancel owner => { s with queue := s.queue.cancel owner }
  | .pop now =>
    match s.queue.popDue? now with
    | none => s
    | some (fired, left) => ⟨left, s.returned ++ [fired]⟩

/-- The queue after these uses of an empty one. -/
def InUse.after (uses : List (Use ε)) : InUse ε := uses.foldl InUse.use ⟨.empty, []⟩

/-! ## Turns -/

namespace Timer

/-- The nanoseconds from one turn to the next, none if there is no other. -/
def interval (t : Timer ε) : ℕ :=
  match t.every with
  | none => 0
  | some every => every.nanos

/-- When a timer has its next turn after so many turns: that many intervals after the first one, or
at the end of time. -/
def dueAt (t : Timer ε) (turns : ℕ) : Duration := .ofNanos (t.due.nanos + turns * t.interval)

/-- The turns that a timer has are the first one and, if it has an interval, all others up to the
first one at the end of time. -/
def HasTurn (t : Timer ε) (turn : ℕ) : Prop :=
  ∀ earlier < turn, 0 < t.interval ∧ t.dueAt earlier < .longest

instance (t : Timer ε) (turn : ℕ) : Decidable (t.HasTurn turn) :=
  inferInstanceAs (Decidable (∀ earlier < turn, 0 < t.interval ∧ t.dueAt earlier < .longest))

theorem hasTurn_zero (t : Timer ε) : t.HasTurn 0 := fun _ h => absurd h (Nat.not_lt_zero _)

/-- There is one turn more if the timer repeats and time has not come to its end. -/
theorem hasTurn_succ {t : Timer ε} {turn : ℕ} :
    t.HasTurn (turn + 1) ↔ t.HasTurn turn ∧ 0 < t.interval ∧ t.dueAt turn < .longest :=
  Nat.forall_lt_succ_right

/-- A timer without an interval has one turn. -/
theorem hasTurn_iff_of_interval_eq_zero {t : Timer ε} (h : t.interval = 0) {turn : ℕ} :
    t.HasTurn turn ↔ turn = 0 := by
  constructor
  · intro hturn
    by_contra hne
    exact Nat.ne_of_gt (hturn 0 (Nat.pos_of_ne_zero hne)).1 h
  · rintro rfl
    exact t.hasTurn_zero

/-- Turns come without gaps. -/
theorem HasTurn.of_le {t : Timer ε} {j k : ℕ} (h : t.HasTurn k) (hle : j ≤ k) : t.HasTurn j :=
  fun i hi => h i (Nat.lt_of_lt_of_le hi hle)

/-- The first turn is when the timer was scheduled for. -/
theorem dueAt_zero (t : Timer ε) : t.dueAt 0 = t.due := by
  have h := t.due.inRange
  apply Duration.eq_of_nanos
  rw [dueAt, Duration.nanos_ofNanos, Nat.zero_mul, Nat.add_zero]
  omega

/-- Later turns are not due earlier. -/
theorem dueAt_le {t : Timer ε} {j k : ℕ} (hle : j ≤ k) : t.dueAt j ≤ t.dueAt k := by
  have h := Nat.mul_le_mul_right t.interval hle
  rw [Duration.le_iff, dueAt, dueAt, Duration.nanos_ofNanos, Duration.nanos_ofNanos]
  omega

/-- A timer with an interval has another turn after every one that is before the end of time. -/
theorem hasTurn_succ_iff {t : Timer ε} (h : 0 < t.interval) {turn : ℕ} :
    t.HasTurn (turn + 1) ↔ t.dueAt turn < .longest := by
  constructor
  · exact fun hturn => (hturn turn (Nat.lt_succ_self turn)).2
  · intro hlt j hj
    exact ⟨h, Nat.lt_of_le_of_lt (dueAt_le (Nat.le_of_lt_succ hj)) hlt⟩

/-- A timer that is due at the end of time has no other turn. -/
example : ¬ (⟨.longest, ⟨1⟩, some (.ofMillis 500), 0⟩ : Timer ℕ).HasTurn 1 := by decide

/-- From turn to turn it is one interval. -/
theorem dueAt_succ {t : Timer ε} {every : Duration} (h : t.every = some every) (turns : ℕ) :
    t.dueAt (turns + 1) = t.dueAt turns + every := by
  have hinterval : t.interval = every.nanos := by rw [interval, h]
  apply Duration.eq_of_nanos
  rw [Duration.nanos_add, dueAt, dueAt, Duration.nanos_ofNanos, Duration.nanos_ofNanos,
    hinterval, Nat.succ_mul]
  omega

end Timer

/-- A turn of a timer: which use of the queue has scheduled the timer, the timer as it was scheduled
then, and how many turns it has had before this one. -/
structure Turn (ε : Type) where
  call : ℕ
  timer : Timer ε
  number : ℕ

namespace Turn

/-- When it is time for the turn. -/
def due (t : Turn ε) : Duration := t.timer.dueAt t.number

/-- The timer as it waits for the turn. -/
def pending (t : Turn ε) : Timer ε := { t.timer with due := t.due }

/-- What is returned when the turn has come. -/
def fired (t : Turn ε) : Fired ε := ⟨t.due, t.timer.owner, t.timer.event⟩

/-- The next turn of the timer, if there is one. -/
def next? (t : Turn ε) : Option (Turn ε) :=
  if 0 < t.timer.interval ∧ t.due < .longest then some { t with number := t.number + 1 } else none

theorem next?_of_hasTurn {t : Turn ε} (h : t.timer.HasTurn (t.number + 1)) :
    t.next? = some { t with number := t.number + 1 } := if_pos (Timer.hasTurn_succ.1 h).2

theorem next?_of_not_hasTurn {t : Turn ε} (h : t.timer.HasTurn t.number)
    (hlast : ¬ t.timer.HasTurn (t.number + 1)) : t.next? = none :=
  if_neg fun hmore => hlast (Timer.hasTurn_succ.2 ⟨h, hmore⟩)

/-- All turns of a timer go back to the same call. -/
theorem call_of_next? {t next : Turn ε} (h : t.next? = some next) : next.call = t.call := by
  simp only [next?, Option.ite_none_right_eq_some, Option.some.injEq] at h
  rw [← h.2]

/-- The queue's rule for what comes next is that of the turns. -/
theorem again?_pending (t : Turn ε) : Queue.again? t.pending = t.next?.map pending := by
  unfold Queue.again? next?
  cases hevery : t.timer.every with
  | none =>
    have hinterval : ¬ 0 < t.timer.interval := by simp [Timer.interval, hevery]
    rw [if_neg fun h => hinterval h.1]
    simp [pending, hevery]
  | some every =>
    have hinterval : t.timer.interval = every.nanos := by simp [Timer.interval, hevery]
    have hnext : t.due + every = (⟨t.call, t.timer, t.number + 1⟩ : Turn ε).due :=
      (Timer.dueAt_succ hevery t.number).symm
    have hiff : t.due < t.due + every ↔ 0 < t.timer.interval ∧ t.due < .longest := by
      rw [hinterval]
      rcases Nat.eq_zero_or_pos every.nanos with hzero | hpos
      · have h := t.due.inRange
        rw [Duration.lt_iff, Duration.nanos_add, hzero]
        omega
      · rw [Duration.lt_add_iff hpos, and_iff_right hpos]
    simp only [pending, hevery, hiff]
    split
    · simp only [Option.map_some, hnext, pending, hevery]
    · rfl

end Turn

/-! ## The ledger -/

/-- The pending turns of timers in the order in which they were queued, and all that have been
returned, with the number of uses up to now. -/
structure Ledger (ε : Type) where
  calls : ℕ
  pending : List (Turn ε)
  returned : List (Turn ε)

namespace Ledger

/-- Of the turns with the least due time the one queued first, and all others. -/
def soonest? : List (Turn ε) → Option (Turn ε × List (Turn ε))
  | [] => none
  | t :: rest =>
    match soonest? rest with
    | none => some (t, [])
    | some (u, others) => if t.due ≤ u.due then some (t, rest) else some (u, t :: others)

/-- The ledger with one more timer. -/
def enter (l : Ledger ε) (t : Timer ε) : Ledger ε :=
  { l with calls := l.calls + 1, pending := l.pending ++ [⟨l.calls, t, 0⟩] }

/-- The ledger after one more use. A turn that is returned is followed by the next turn of its
timer, which is queued after all others. -/
def use (l : Ledger ε) : Use ε → Ledger ε
  | .schedule due owner event => l.enter ⟨due, owner, none, event⟩
  | .scheduleRepeating first every owner event => l.enter ⟨first, owner, some every, event⟩
  | .cancel owner =>
    { l with calls := l.calls + 1, pending := l.pending.filter (·.timer.owner ≠ owner) }
  | .pop now =>
    match soonest? l.pending with
    | none => { l with calls := l.calls + 1 }
    | some (t, others) =>
      if t.due ≤ now then ⟨l.calls + 1, others ++ t.next?.toList, l.returned ++ [t]⟩
      else { l with calls := l.calls + 1 }

/-- The ledger after these uses of an empty queue. -/
def after (uses : List (Use ε)) : Ledger ε := uses.foldl Ledger.use ⟨0, [], []⟩

/-- The turns of the timer scheduled by one use that have been returned. -/
def turnsOf (l : Ledger ε) (call : ℕ) : List (Turn ε) := l.returned.filter (·.call = call)

/-- There is a soonest turn unless nothing is pending. -/
theorem soonest?_eq_none_iff {turns : List (Turn ε)} : soonest? turns = none ↔ turns = [] := by
  cases turns with
  | nil => simp [soonest?]
  | cons t rest =>
    simp only [soonest?, reduceCtorEq, iff_false]
    split
    · simp
    · split <;> simp

/-- Of the turns with the least due time, the soonest is the first. -/
theorem exists_of_soonest? {turns others : List (Turn ε)} {t : Turn ε}
    (h : soonest? turns = some (t, others)) :
    ∃ before after, turns = before ++ t :: after ∧ others = before ++ after ∧
      (∀ u ∈ before, t.due < u.due) ∧ ∀ u ∈ after, t.due ≤ u.due := by
  induction turns generalizing t others with
  | nil => simp [soonest?] at h
  | cons first rest ih =>
    unfold soonest? at h
    split at h
    · rename_i hnone
      obtain ⟨rfl, rfl⟩ := Prod.mk.inj (Option.some.inj h)
      rw [soonest?_eq_none_iff] at hnone
      exact ⟨[], [], by rw [hnone]; rfl, rfl, by simp, by simp⟩
    · rename_i u more hsome
      obtain ⟨before, after, hrest, hmore, hbefore, hafter⟩ := ih hsome
      split at h
      · rename_i hle
        obtain ⟨rfl, rfl⟩ := Prod.mk.inj (Option.some.inj h)
        refine ⟨[], rest, rfl, rfl, by simp, fun v hv => ?_⟩
        rw [hrest, List.mem_append, List.mem_cons] at hv
        -- every other turn is due no earlier than the soonest of them
        have huv : u.due ≤ v.due := by
          rcases hv with hv | rfl | hv
          · exact Nat.le_of_lt (hbefore v hv)
          · exact Nat.le_refl _
          · exact hafter v hv
        exact Nat.le_trans hle huv
      · rename_i hlt
        obtain ⟨rfl, rfl⟩ := Prod.mk.inj (Option.some.inj h)
        refine ⟨first :: before, after, by rw [hrest]; rfl, by rw [hmore]; rfl, ?_, hafter⟩
        exact List.forall_mem_cons.2 ⟨Nat.lt_of_not_le hlt, hbefore⟩

/-- What asking for a timer does: nothing if all turns are due later, and else the first turn of the
least due time is returned. -/
theorem use_pop_cases (l : Ledger ε) (now : Duration) :
    ((∀ t ∈ l.pending, now < t.due) ∧ l.use (.pop now) = { l with calls := l.calls + 1 }) ∨
      ∃ (before after : List (Turn ε)) (t : Turn ε),
        l.pending = before ++ t :: after ∧ t.due ≤ now ∧
        (∀ u ∈ before, t.due < u.due) ∧ (∀ u ∈ after, t.due ≤ u.due) ∧
        l.use (.pop now) =
          ⟨l.calls + 1, before ++ after ++ t.next?.toList, l.returned ++ [t]⟩ := by
  cases hsoonest : soonest? l.pending with
  | none =>
    refine .inl ⟨?_, by simp only [use, hsoonest]⟩
    rw [soonest?_eq_none_iff.1 hsoonest]
    simp
  | some found =>
    obtain ⟨t, others⟩ := found
    obtain ⟨before, after, hpending, rfl, hbefore, hafter⟩ := exists_of_soonest? hsoonest
    by_cases hdue : t.due ≤ now
    · exact .inr ⟨before, after, t, hpending, hdue, hbefore, hafter,
        by simp only [use, hsoonest, if_pos hdue]⟩
    · refine .inl ⟨fun u hu => ?_, by simp only [use, hsoonest, if_neg hdue]⟩
      have hlater : now < t.due := Nat.lt_of_not_le hdue
      rw [hpending, List.mem_append, List.mem_cons] at hu
      rcases hu with hu | rfl | hu
      · exact Nat.lt_trans hlater (hbefore u hu)
      · exact hlater
      · exact Nat.lt_of_lt_of_le hlater (hafter u hu)

/-- Taking a timer when none is due only counts the call. -/
theorem use_pop_of_later {l : Ledger ε} {now : Duration} (h : ∀ t ∈ l.pending, now < t.due) :
    l.use (.pop now) = { l with calls := l.calls + 1 } := by
  rcases l.use_pop_cases now with ⟨-, huse⟩ | ⟨before, after, t, hpending, hdue, -, -, -⟩
  · exact huse
  · exact absurd hdue (Nat.not_le_of_lt (h t (by simp [hpending])))

theorem calls_use (l : Ledger ε) (u : Use ε) : (l.use u).calls = l.calls + 1 := by
  cases u with
  | pop now => rcases l.use_pop_cases now with ⟨-, huse⟩ | ⟨_, _, _, -, -, -, -, huse⟩ <;> rw [huse]
  | _ => rfl

/-- What is pending belongs to the new use, or to a call of which something was pending before. -/
theorem call_of_mem_use {l : Ledger ε} {u : Use ε} {t : Turn ε} (h : t ∈ (l.use u).pending) :
    t.call = l.calls ∨ ∃ v ∈ l.pending, t.call = v.call := by
  have henter : ∀ {timer : Timer ε}, t ∈ (l.enter timer).pending →
      t.call = l.calls ∨ ∃ v ∈ l.pending, t.call = v.call := by
    intro timer ht
    rcases List.mem_append.1 ht with ht | ht
    · exact .inr ⟨t, ht, rfl⟩
    · exact .inl (by rw [List.mem_singleton.1 ht])
  cases u with
  | schedule due owner event => exact henter h
  | scheduleRepeating first every owner event => exact henter h
  | cancel owner => exact .inr ⟨t, List.mem_of_mem_filter h, rfl⟩
  | pop now =>
    rcases l.use_pop_cases now with ⟨-, huse⟩ | ⟨before, after, v, hpending, -, -, -, huse⟩
    · rw [huse] at h
      exact .inr ⟨t, h, rfl⟩
    · rw [huse] at h
      rw [hpending]
      simp only [List.mem_append, Option.mem_toList] at h
      rcases h with (h | h) | h
      · exact .inr ⟨t, by simp [h], rfl⟩
      · exact .inr ⟨t, by simp [h], rfl⟩
      · exact .inr ⟨v, by simp, Turn.call_of_next? h⟩

/-- Only what was pending is returned, and one turn at a time. -/
theorem returned_use (l : Ledger ε) (u : Use ε) :
    (l.use u).returned = l.returned ∨ ∃ t ∈ l.pending, (l.use u).returned = l.returned ++ [t] := by
  cases u with
  | pop now =>
    rcases l.use_pop_cases now with ⟨-, huse⟩ | ⟨before, after, t, hpending, -, -, -, huse⟩
    · rw [huse]
      exact .inl rfl
    · rw [huse]
      exact .inr ⟨t, by simp [hpending], rfl⟩
  | _ => exact .inl rfl

theorem use_of_timer? {u : Use ε} {t : Timer ε} (h : u.timer? = some t) (l : Ledger ε) :
    l.use u = l.enter t := by
  cases u with
  | schedule due owner event => exact Option.some.inj h ▸ rfl
  | scheduleRepeating first every owner event => exact Option.some.inj h ▸ rfl
  | cancel owner => cases h
  | pop now => cases h

theorem after_concat (uses : List (Use ε)) (u : Use ε) :
    after (uses ++ [u]) = (after uses).use u := by
  unfold after
  rw [List.foldl_concat]

/-- The uses are counted. -/
theorem calls_after (uses : List (Use ε)) : (after uses).calls = uses.length := by
  induction uses using List.reverseRecOn with
  | nil => rfl
  | append_singleton uses u ih => rw [after_concat, calls_use, ih, List.length_append]; rfl

end Ledger

/-! ## The queue follows the ledger -/

/-- What is added to a list and not picked out does not show. -/
theorem filter_concat_of_neg {α : Type} {keep : α → Bool} {a : α} (h : ¬ keep a = true)
    (l : List α) : (l ++ [a]).filter keep = l.filter keep := by
  rw [List.filter_append, List.filter_cons_of_neg h, List.filter_nil, List.append_nil]

/-- Timers in the order in which they fire, when they have been queued in this order. -/
def arrange (timers : List (Timer ε)) : List (Timer ε) :=
  timers.foldl (fun queued t => insertTimer t queued) []

/-- The timer that is queued last is inserted after those that are due no later. -/
theorem arrange_concat (timers : List (Timer ε)) (t : Timer ε) :
    arrange (timers ++ [t]) = insertTimer t (arrange timers) := by
  unfold arrange
  rw [List.foldl_concat]

theorem arrange_perm (timers : List (Timer ε)) : (arrange timers).Perm timers := by
  induction timers using List.reverseRecOn with
  | nil => exact List.Perm.refl _
  | append_singleton timers t ih =>
    rw [arrange_concat]
    exact (insertTimer_perm t _).trans ((ih.cons t).trans (List.perm_append_singleton t _).symm)

theorem inOrder_arrange (timers : List (Timer ε)) : InOrder (arrange timers) := by
  induction timers using List.reverseRecOn with
  | nil => exact List.Pairwise.nil
  | append_singleton timers t ih =>
    rw [arrange_concat]
    exact ih.insertTimer t

/-- The timers that are picked out are in their order among all. -/
theorem filter_arrange (keep : Timer ε → Bool) (timers : List (Timer ε)) :
    (arrange timers).filter keep = arrange (timers.filter keep) := by
  induction timers using List.reverseRecOn with
  | nil => rfl
  | append_singleton timers t ih =>
    rw [arrange_concat]
    by_cases hkeep : keep t = true
    · rw [filter_insertTimer_of_true hkeep (inOrder_arrange timers), ih, List.filter_append,
        List.filter_cons_of_pos hkeep, List.filter_nil, arrange_concat]
    · rw [filter_insertTimer_of_false (Bool.not_eq_true _ ▸ hkeep), ih, filter_concat_of_neg hkeep]

/-- A timer that is due before all that were queued earlier, and no later than all that were queued
later, is the first to fire. -/
theorem arrange_append_cons {before after : List (Timer ε)} {t : Timer ε}
    (hbefore : ∀ u ∈ before, t.due < u.due) (hafter : ∀ u ∈ after, t.due ≤ u.due) :
    arrange (before ++ t :: after) = t :: arrange (before ++ after) := by
  induction after using List.reverseRecOn with
  | nil =>
    rw [arrange_concat, List.append_nil]
    have hlater : ∀ u ∈ arrange before, ¬ u.due ≤ t.due :=
      fun u hu => Nat.not_le_of_lt (hbefore u ((arrange_perm before).mem_iff.1 hu))
    cases harrange : arrange before with
    | nil => rfl
    | cons u rest => exact if_neg (hlater u (harrange ▸ List.mem_cons_self))
  | append_singleton after u ih =>
    have hu : t.due ≤ u.due := hafter u (List.mem_append_right _ List.mem_cons_self)
    have hrest := ih fun v hv => hafter v (List.mem_append_left _ hv)
    rw [← List.cons_append, ← List.append_assoc, arrange_concat, hrest, ← List.append_assoc,
      arrange_concat, insertTimer, if_pos hu]

namespace InUse

/-- The queue has the timers of the ledger, arranged, and has returned what the ledger has. -/
structure Follows (s : InUse ε) (l : Ledger ε) : Prop where
  timers : s.queue.timers = arrange (l.pending.map Turn.pending)
  returned : s.returned = l.returned.map Turn.fired

variable {s : InUse ε} {l : Ledger ε}

theorem after_concat (uses : List (Use ε)) (u : Use ε) :
    after (uses ++ [u]) = (after uses).use u := by
  unfold after
  rw [List.foldl_concat]

/-- The queue holds the timers of the pending turns. -/
theorem Follows.mem_timers (h : s.Follows l) {t : Timer ε} :
    t ∈ s.queue.timers ↔ ∃ turn ∈ l.pending, turn.pending = t := by
  rw [h.timers, (arrange_perm _).mem_iff, List.mem_map]

/-- Nothing is returned exactly if all turns are due later. -/
theorem Follows.popDue?_eq_none_iff (h : s.Follows l) {now : Duration} :
    s.queue.popDue? now = none ↔ ∀ t ∈ l.pending, now < t.due := by
  rw [Queue.popDue?_eq_none_iff]
  constructor
  · exact fun hlater t ht => hlater t.pending (h.mem_timers.2 ⟨t, ht, rfl⟩)
  · intro hlater t ht
    obtain ⟨turn, hturn, rfl⟩ := h.mem_timers.1 ht
    exact hlater turn hturn

/-- The first turn of the least due time is the queue's next one. -/
theorem Follows.timers_eq_cons (h : s.Follows l) {before after : List (Turn ε)} {t : Turn ε}
    (hpending : l.pending = before ++ t :: after) (hbefore : ∀ u ∈ before, t.due < u.due)
    (hafter : ∀ u ∈ after, t.due ≤ u.due) :
    s.queue.timers = t.pending :: arrange ((before ++ after).map Turn.pending) := by
  rw [h.timers, hpending, List.map_append, List.map_cons, arrange_append_cons, List.map_append]
  · exact List.forall_mem_map.2 hbefore
  · exact List.forall_mem_map.2 hafter

/-- What is returned is the first turn of the least due time, and the queue that is left follows the
ledger that is left. -/
theorem Follows.exists_of_popDue? (h : s.Follows l) {now : Duration} {fired : Fired ε}
    {left : Queue ε} (hpop : s.queue.popDue? now = some (fired, left)) :
    ∃ (before after : List (Turn ε)) (t : Turn ε),
      l.pending = before ++ t :: after ∧ fired = t.fired ∧ t.due ≤ now ∧
      (∀ u ∈ before, t.due < u.due) ∧ (∀ u ∈ after, t.due ≤ u.due) ∧
      s.queue.nextDue? = some t.due ∧
      Follows ⟨left, s.returned ++ [fired]⟩ (l.use (.pop now)) := by
  rcases l.use_pop_cases now with
    ⟨hlater, -⟩ | ⟨before, after, t, hpending, hdue, hbefore, hafter, huse⟩
  · have hnone := h.popDue?_eq_none_iff.2 hlater
    simp [hpop] at hnone
  · obtain ⟨first, rest, htimers, -, -, rfl, hleft⟩ := Queue.exists_of_popDue? hpop
    have hcons := h.timers_eq_cons hpending hbefore hafter
    obtain ⟨rfl, rfl⟩ := List.cons.inj (htimers.symm.trans hcons)
    refine ⟨before, after, t, hpending, rfl, hdue, hbefore, hafter, ?_, ?_⟩
    · rw [Queue.nextDue?, hcons]
      rfl
    · rw [huse]
      refine ⟨?_, ?_⟩
      · rw [hleft, Turn.again?_pending]
        cases t.next? with
        | none => simp
        | some next =>
          simp only [Option.map_some, Option.toList_some, List.map_append, List.map_singleton,
            arrange_concat]
      · show s.returned ++ [_] = _
        rw [List.map_append, h.returned]
        rfl

/-- Queue and ledger are still in step when a timer is queued. -/
theorem Follows.enter (h : s.Follows l) {t : Timer ε} :
    Follows ⟨s.queue.push t, s.returned⟩ (l.enter t) where
  timers := by
    have ht : (⟨l.calls, t, 0⟩ : Turn ε).pending = t := by
      simp only [Turn.pending, Turn.due, Timer.dueAt_zero]
    show insertTimer t s.queue.timers = arrange ((l.pending ++ [_]).map Turn.pending)
    rw [List.map_append, List.map_singleton, ht, arrange_concat, h.timers]
  returned := h.returned

/-- The queue follows the ledger through every use. -/
theorem Follows.use (h : s.Follows l) (u : Use ε) : (s.use u).Follows (l.use u) := by
  cases u with
  | schedule due owner event => exact h.enter
  | scheduleRepeating first every owner event => exact h.enter
  | cancel owner =>
    refine ⟨?_, h.returned⟩
    show s.queue.timers.filter (·.owner ≠ owner) =
      arrange ((l.pending.filter (·.timer.owner ≠ owner)).map Turn.pending)
    rw [h.timers, filter_arrange, List.filter_map]
    rfl
  | pop now =>
    cases hpop : s.queue.popDue? now with
    | none =>
      have hlater := h.popDue?_eq_none_iff.1 hpop
      rw [Ledger.use_pop_of_later hlater]
      simp only [InUse.use, hpop]
      exact ⟨h.timers, h.returned⟩
    | some popped =>
      obtain ⟨before, after, t, -, -, -, -, -, -, hfollows⟩ := h.exists_of_popDue? hpop
      simp only [InUse.use, hpop]
      exact hfollows

/-- **The queue answers as the ledger does.** -/
theorem follows_after (uses : List (Use ε)) : (after uses).Follows (Ledger.after uses) := by
  induction uses using List.reverseRecOn with
  | nil => exact ⟨rfl, rfl⟩
  | append_singleton uses u ih =>
    rw [after_concat, Ledger.after_concat]
    exact ih.use u

end InUse

/-! ## Drains -/

namespace Queue

variable {q left m : Queue ε} {now : Duration} {first : Fired ε} {fired later : List (Fired ε)}

/-- What is returned, one after the other, when a queue is asked for timers until none is due, and
the queue that is left then. -/
inductive Drains (now : Duration) : Queue ε → List (Fired ε) → Queue ε → Prop where
  | done {q : Queue ε} (h : q.popDue? now = none) : Drains now q [] q
  | pop {q left m : Queue ε} {first : Fired ε} {later : List (Fired ε)}
      (h : q.popDue? now = some (first, left)) (rest : Drains now left later m) :
      Drains now q (first :: later) m

/-- Every drain ends. -/
theorem exists_drains (now : Duration) (q : Queue ε) : ∃ fired left, Drains now q fired left := by
  -- every timer that is returned leaves less that can be
  induction hwork : q.workUntil now using Nat.strongRecOn generalizing q with
  | ind work ih =>
    cases hpop : q.popDue? now with
    | none => exact ⟨[], q, .done hpop⟩
    | some popped =>
      obtain ⟨first, left⟩ := popped
      obtain ⟨later, m, hrest⟩ := ih _ (hwork ▸ workUntil_popDue? hpop) left rfl
      exact ⟨first :: later, m, .pop hpop hrest⟩

/-- Drains end in one way only. -/
theorem Drains.unique (h : Drains now q fired left) (h' : Drains now q later m) :
    fired = later ∧ left = m := by
  induction h generalizing later with
  | done hnone =>
    cases h' with
    | done => exact ⟨rfl, rfl⟩
    | pop hsome => simp [hnone] at hsome
  | pop hsome _ ih =>
    cases h' with
    | done hnone => simp [hnone] at hsome
    | pop hsome' hrest' =>
      rw [hsome] at hsome'
      obtain ⟨rfl, rfl⟩ := Prod.mk.inj (Option.some.inj hsome')
      obtain ⟨rfl, rfl⟩ := ih hrest'
      exact ⟨rfl, rfl⟩

/-- A drain is so many uses of the queue. -/
theorem Drains.foldl_use (h : Drains now q fired left) (returned : List (Fired ε)) :
    (List.replicate fired.length (.pop now)).foldl InUse.use ⟨q, returned⟩ =
      ⟨left, returned ++ fired⟩ := by
  induction h generalizing returned with
  | done => rw [List.append_nil]; rfl
  | @pop q left m first later hpop _ ih =>
    have huse : InUse.use ⟨q, returned⟩ (.pop now) = ⟨left, returned ++ [first]⟩ := by
      simp only [InUse.use, hpop]
    rw [List.length_cons, List.replicate_succ, List.foldl_cons, huse, ih, List.append_assoc]
    rfl

theorem Drains.popDue?_eq_none (h : Drains now q fired left) : left.popDue? now = none := by
  induction h with
  | done hnone => exact hnone
  | pop _ _ ih => exact ih

theorem eq_of_timers {q q' : Queue ε} (h : q.timers = q'.timers) : q = q' := by
  cases q
  cases q'
  cases h
  rfl

/-- When a token is cancelled, it makes no difference whether one of its timers has been returned
just before. -/
theorem cancel_of_popDue? (h : q.popDue? now = some (first, left)) :
    left.cancel first.owner = q.cancel first.owner := by
  obtain ⟨t, rest, htimers, -, -, rfl, hleft⟩ := exists_of_popDue? h
  apply eq_of_timers
  rw [timers_cancel, timers_cancel, htimers, hleft, List.filter_cons_of_neg (by simp)]
  cases hagain : again? t with
  | none => rfl
  | some next =>
    obtain ⟨every, -, -, rfl⟩ := again?_eq_some_iff.1 hagain
    exact filter_insertTimer_of_false (by simp) rest

/-- A timer of another token is returned as well when the token has been cancelled just before. -/
theorem popDue?_cancel {owner : Token} (h : q.popDue? now = some (first, left))
    (howner : first.owner ≠ owner) :
    (q.cancel owner).popDue? now = some (first, left.cancel owner) := by
  obtain ⟨t, rest, htimers, -, hdue, rfl, hleft⟩ := exists_of_popDue? h
  have horder : InOrder rest := (List.pairwise_cons.1 (htimers ▸ q.inOrder)).2
  have hcancel : (q.cancel owner).timers = t :: rest.filter (·.owner ≠ owner) := by
    rw [timers_cancel, htimers, List.filter_cons_of_pos (by simpa using howner)]
  cases hpop : (q.cancel owner).popDue? now with
  | none =>
    have hlater := popDue?_eq_none_iff.1 hpop t (hcancel ▸ List.mem_cons_self)
    exact absurd hdue (Nat.not_le_of_lt hlater)
  | some popped =>
    obtain ⟨t', rest', htimers', -, -, hfired, hleft'⟩ := exists_of_popDue? hpop
    obtain ⟨rfl, rfl⟩ := List.cons.inj (hcancel.symm.trans htimers')
    have hsame : popped.2 = left.cancel owner := by
      apply eq_of_timers
      rw [hleft', timers_cancel, hleft]
      cases hagain : again? t with
      | none => rfl
      | some next =>
        obtain ⟨every, -, -, rfl⟩ := again?_eq_some_iff.1 hagain
        exact (filter_insertTimer_of_true (by simpa using howner) horder).symm
    exact congrArg some (Prod.ext hfired hsame)

/-- A drain returns the same when a token has been cancelled before, without what that token has. -/
theorem Drains.cancel (h : Drains now q fired left) (owner : Token) :
    Drains now (q.cancel owner) (fired.filter (·.owner ≠ owner)) (left.cancel owner) := by
  induction h with
  | @done q hnone =>
    refine .done (popDue?_eq_none_iff.2 fun t ht => ?_)
    exact popDue?_eq_none_iff.1 hnone t (mem_cancel.1 ht).1
  | @pop q left m first later hpop _ ih =>
    by_cases howner : first.owner = owner
    · subst howner
      rw [← cancel_of_popDue? hpop, List.filter_cons_of_neg (by simp)]
      exact ih
    · rw [List.filter_cons_of_pos (by simpa using howner)]
      exact .pop (popDue?_cancel hpop howner) ih

end Queue

/-! ## The turns of one timer -/

namespace Ledger

variable {l : Ledger ε} {call : ℕ} {t : Timer ε} {turns : ℕ}

/-- The uses that are written in the ledger are those up to now. -/
structure Numbered (l : Ledger ε) : Prop where
  pending : ∀ t ∈ l.pending, t.call < l.calls
  returned : ∀ t ∈ l.returned, t.call < l.calls

/-- A use keeps the numbers of the calls below their count. -/
theorem Numbered.use (h : l.Numbered) (u : Use ε) : (l.use u).Numbered where
  pending v hv := by
    rw [calls_use]
    rcases call_of_mem_use hv with hcall | ⟨w, hw, hcall⟩
    · exact hcall ▸ Nat.lt_succ_self _
    · exact hcall ▸ Nat.lt_succ_of_lt (h.pending w hw)
  returned v hv := by
    rw [calls_use]
    apply Nat.lt_succ_of_lt
    rcases l.returned_use u with hsame | ⟨w, hw, hmore⟩
    · exact h.returned v (hsame ▸ hv)
    · rw [hmore, List.mem_append, List.mem_singleton] at hv
      rcases hv with hv | rfl
      · exact h.returned v hv
      · exact h.pending v hw

/-- After any uses all calls have numbers below their count. -/
theorem numbered_after (uses : List (Use ε)) : (after uses).Numbered := by
  induction uses using List.reverseRecOn with
  | nil => exact ⟨by simp [after], by simp [after]⟩
  | append_singleton uses u ih =>
    rw [after_concat]
    exact ih.use u

/-- The timer `t`, scheduled by the use `call`, has had so many turns, and waits for the next one if
it has another. -/
structure Tracks (l : Ledger ε) (call : ℕ) (t : Timer ε) (turns : ℕ) : Prop where
  called : call < l.calls
  returned : l.turnsOf call = (List.range turns).map fun k => ⟨call, t, k⟩
  pending : l.pending.filter (·.call = call) = if t.HasTurn turns then [⟨call, t, turns⟩] else []
  hasTurn : ∀ k < turns, t.HasTurn k

/-- A timer that is scheduled waits for its first turn. -/
theorem tracks_enter (h : l.Numbered) (t : Timer ε) : (l.enter t).Tracks l.calls t 0 where
  called := Nat.lt_succ_self _
  returned := List.filter_eq_nil_iff.2 fun u hu => by simpa using Nat.ne_of_lt (h.returned u hu)
  pending := by
    have hnone : l.pending.filter (·.call = l.calls) = [] :=
      List.filter_eq_nil_iff.2 fun u hu => by simpa using Nat.ne_of_lt (h.pending u hu)
    rw [if_pos t.hasTurn_zero]
    show (l.pending ++ [_]).filter _ = _
    rw [List.filter_append, hnone, List.filter_cons_of_pos (by simp), List.filter_nil,
      List.nil_append]
  hasTurn k hk := absurd hk (Nat.not_lt_zero k)

/-- A timer that is queued leaves the turns of the others as they are. -/
theorem Tracks.enter (h : l.Tracks call t turns) (u : Timer ε) :
    (l.enter u).Tracks call t turns where
  called := Nat.lt_succ_of_lt h.called
  returned := h.returned
  pending := by
    rw [← h.pending]
    exact filter_concat_of_neg (by simpa using Nat.ne_of_gt h.called) l.pending
  hasTurn := h.hasTurn

/-- The timer stays where it is when another timer's turn is returned. -/
theorem Tracks.pop_other (h : l.Tracks call t turns) {before after : List (Turn ε)} {u : Turn ε}
    (hpending : l.pending = before ++ u :: after) (hu : u.call ≠ call) :
    Tracks ⟨l.calls + 1, before ++ after ++ u.next?.toList, l.returned ++ [u]⟩ call t turns where
  called := Nat.lt_succ_of_lt h.called
  returned := by
    rw [← h.returned]
    exact filter_concat_of_neg (by simp [hu]) l.returned
  pending := by
    have hnext : u.next?.toList.filter (·.call = call) = [] := by
      refine List.filter_eq_nil_iff.2 fun v hv => ?_
      rw [Turn.call_of_next? (Option.mem_toList.1 hv)]
      simp [hu]
    rw [← h.pending, hpending]
    simp only [List.filter_append, hnext, List.append_nil]
    rw [List.filter_cons_of_neg (by simp [hu])]
  hasTurn := h.hasTurn

/-- When a turn of the timer is returned, it is the one that it has waited for, and it waits for the
next one then. -/
theorem Tracks.pop_self (h : l.Tracks call t turns) {before after : List (Turn ε)} {u : Turn ε}
    (hpending : l.pending = before ++ u :: after) (hu : u.call = call) :
    u = ⟨call, t, turns⟩ ∧
      Tracks ⟨l.calls + 1, before ++ after ++ u.next?.toList, l.returned ++ [u]⟩ call t
        (turns + 1) := by
  have hfilter : l.pending.filter (·.call = call) =
      before.filter (·.call = call) ++ u :: after.filter (·.call = call) := by
    rw [hpending, List.filter_append, List.filter_cons_of_pos (by simp [hu])]
  rw [h.pending] at hfilter
  -- the timer waits for one turn, so there is no other turn of the call
  have hturn : t.HasTurn turns := by
    by_contra hnot
    simp [if_neg hnot] at hfilter
  rw [if_pos hturn] at hfilter
  obtain ⟨hbefore, rfl, hafter⟩ : before.filter (·.call = call) = [] ∧ u = ⟨call, t, turns⟩ ∧
      after.filter (·.call = call) = [] := by
    rcases List.append_eq_singleton_iff.1 hfilter.symm with ⟨hbefore, hrest⟩ | ⟨-, hrest⟩
    · obtain ⟨rfl, hafter⟩ := List.cons.inj hrest
      exact ⟨hbefore, rfl, hafter⟩
    · simp at hrest
  refine ⟨rfl, Nat.lt_succ_of_lt h.called, ?_, ?_, ?_⟩
  · show (l.returned ++ [_]).filter _ = _
    rw [List.filter_append, List.filter_cons_of_pos (by simp), List.filter_nil,
      List.range_succ, List.map_append, ← h.returned]
    rfl
  · simp only [List.filter_append, hbefore, hafter, List.nil_append]
    by_cases hmore : t.HasTurn (turns + 1)
    · rw [Turn.next?_of_hasTurn hmore, if_pos hmore]
      simp
    · rw [Turn.next?_of_not_hasTurn hturn hmore, if_neg hmore]
      rfl
  · intro k hk
    exact hturn.of_le (Nat.le_of_lt_succ hk)

/-- One more use, unless it cancels the timer's token, leaves the timer waiting or returns the turn
that it has waited for. -/
theorem Tracks.use (h : l.Tracks call t turns) {u : Use ε} (hu : u ≠ .cancel t.owner) :
    (l.use u).Tracks call t turns ∨
      ∃ now, u = .pop now ∧ t.dueAt turns ≤ now ∧ (l.use u).Tracks call t (turns + 1) := by
  cases u with
  | schedule due owner event => exact .inl (h.enter _)
  | scheduleRepeating first every owner event => exact .inl (h.enter _)
  | cancel owner =>
    refine .inl ⟨Nat.lt_succ_of_lt h.called, h.returned, ?_, h.hasTurn⟩
    have howner : t.owner ≠ owner := fun heq => hu (heq ▸ rfl)
    show (l.pending.filter _).filter _ = _
    rw [List.filter_comm, h.pending]
    split
    · rw [List.filter_cons_of_pos (by simp [howner]), List.filter_nil]
    · rfl
  | pop now =>
    rcases l.use_pop_cases now with ⟨-, huse⟩ | ⟨before, after, u, hpending, hdue, -, -, huse⟩
    · rw [huse]
      exact .inl ⟨Nat.lt_succ_of_lt h.called, h.returned, h.pending, h.hasTurn⟩
    · rw [huse]
      by_cases hcall : u.call = call
      · obtain ⟨rfl, htracks⟩ := h.pop_self hpending hcall
        exact .inr ⟨now, rfl, hdue, htracks⟩
      · exact .inl (h.pop_other hpending hcall)

/-- Nothing more is pending of the timer that a use has scheduled. -/
structure Over (l : Ledger ε) (call : ℕ) : Prop where
  called : call < l.calls
  pending : ∀ t ∈ l.pending, t.call ≠ call

/-- A cancelled timer is over. -/
theorem Tracks.over (h : l.Tracks call t turns) : (l.use (.cancel t.owner)).Over call where
  called := Nat.lt_succ_of_lt h.called
  pending u hu hcall := by
    obtain ⟨hu, howner⟩ := List.mem_filter.1 hu
    have hmem : u ∈ l.pending.filter (·.call = call) := List.mem_filter.2 ⟨hu, by simpa using hcall⟩
    rw [h.pending, List.mem_ite_nil_right, List.mem_singleton] at hmem
    rw [hmem.2] at howner
    simp at howner

/-- What is over stays over, and returns nothing. -/
theorem Over.use (h : l.Over call) (u : Use ε) :
    (l.use u).Over call ∧ (l.use u).turnsOf call = l.turnsOf call := by
  refine ⟨⟨?_, fun v hv => ?_⟩, ?_⟩
  · rw [calls_use]
    exact Nat.lt_succ_of_lt h.called
  · rcases call_of_mem_use hv with hcall | ⟨w, hw, hcall⟩
    · exact hcall ▸ Nat.ne_of_gt h.called
    · exact hcall ▸ h.pending w hw
  · unfold turnsOf
    rcases l.returned_use u with hsame | ⟨w, hw, hmore⟩
    · rw [hsame]
    · rw [hmore, filter_concat_of_neg (by simp [h.pending w hw])]

/-- Once a timer has had its last turn, it has no more, whatever comes later. -/
theorem Over.after {uses : List (Use ε)} (h : (after uses).Over call) (later : List (Use ε)) :
    (Ledger.after (uses ++ later)).Over call ∧
      (Ledger.after (uses ++ later)).turnsOf call = (Ledger.after uses).turnsOf call := by
  induction later using List.reverseRecOn with
  | nil => rw [List.append_nil]; exact ⟨h, rfl⟩
  | append_singleton later u ih =>
    obtain ⟨hover, hturns⟩ := ih
    obtain ⟨hover', hturns'⟩ := hover.use u
    rw [← List.append_assoc, after_concat]
    exact ⟨hover', hturns'.trans hturns⟩

/-- **A timer through its history.** As long as its token is not cancelled, a timer has its turns
one after the other, and none before it has been asked for at its time or later. -/
theorem exists_tracks {before later : List (Use ε)} {u : Use ε} (hu : u.timer? = some t)
    (hlater : .cancel t.owner ∉ later) :
    ∃ turns, (after (before ++ u :: later)).Tracks before.length t turns ∧
      ∀ k < turns, ∃ now, .pop now ∈ later ∧ t.dueAt k ≤ now := by
  induction later using List.reverseRecOn with
  | nil =>
    refine ⟨0, ?_, fun k hk => absurd hk (Nat.not_lt_zero k)⟩
    rw [after_concat, use_of_timer? hu, ← calls_after before]
    exact tracks_enter (numbered_after before) t
  | append_singleton later v ih =>
    have hv : v ≠ .cancel t.owner := fun heq => hlater (by simp [heq])
    obtain ⟨turns, htracks, hreached⟩ := ih fun hmem => hlater (List.mem_append_left _ hmem)
    have hreached' : ∀ k < turns, ∃ now, .pop now ∈ later ++ [v] ∧ t.dueAt k ≤ now := by
      intro k hk
      obtain ⟨now, hnow, hdue⟩ := hreached k hk
      exact ⟨now, List.mem_append_left _ hnow, hdue⟩
    rw [← List.cons_append, ← List.append_assoc, after_concat]
    rcases htracks.use hv with hwaits | ⟨now, rfl, hdue, hreturned⟩
    · exact ⟨turns, hwaits, hreached'⟩
    · refine ⟨turns + 1, hreturned, fun k hk => ?_⟩
      rcases Nat.lt_succ_iff_lt_or_eq.1 hk with hk | rfl
      · exact hreached' k hk
      · exact ⟨now, by simp, hdue⟩

/-- A timer is over when its token has been cancelled. -/
theorem over_of_cancel {before later : List (Use ε)} {u : Use ε} (hu : u.timer? = some t)
    (h : .cancel t.owner ∈ later) : (after (before ++ u :: later)).Over before.length := by
  obtain ⟨first, rest, rfl, hfirst⟩ := List.eq_append_cons_of_mem h
  obtain ⟨turns, htracks, -⟩ :
      ∃ turns, (after (before ++ u :: first)).Tracks before.length t turns ∧ _ :=
    exists_tracks hu hfirst
  have hover := htracks.over
  rw [← after_concat] at hover
  rw [← List.cons_append, ← List.append_assoc, List.append_cons]
  exact (hover.after rest).1

/-- From then on, no more turns of it are returned. -/
theorem turnsOf_cancel {before : List (Use ε)} {u : Use ε} (hu : u.timer? = some t)
    (middle rest : List (Use ε)) :
    (after (before ++ u :: (middle ++ .cancel t.owner :: rest))).turnsOf before.length =
      (after (before ++ u :: middle)).turnsOf before.length := by
  have hover : (after (before ++ u :: (middle ++ [.cancel t.owner]))).Over before.length :=
    over_of_cancel hu (by simp)
  rw [← List.cons_append, ← List.append_assoc] at hover ⊢
  rw [List.append_cons, (hover.after rest).2, after_concat]
  rfl

/-- When all pending turns are due later, the timer has had all that are not. -/
theorem Tracks.lt_of_dueAt_le (h : l.Tracks call t turns) {now : Duration}
    (hlater : ∀ u ∈ l.pending, now < u.due) {k : ℕ} (hturn : t.HasTurn k)
    (hdue : t.dueAt k ≤ now) : k < turns := by
  by_contra hnot
  have hle : turns ≤ k := Nat.le_of_not_lt hnot
  have hmem : (⟨call, t, turns⟩ : Turn ε) ∈ l.pending.filter (·.call = call) := by
    rw [h.pending, if_pos (hturn.of_le hle)]
    exact List.mem_cons_self
  have hlt : now < t.dueAt turns := hlater _ (List.mem_of_mem_filter hmem)
  exact Nat.not_le_of_lt hlt (Nat.le_trans (Timer.dueAt_le hle) hdue)

end Ledger

/-! ## All uses of a queue -/

/-- **The law of timers.** Whatever a queue has been used for, it has the pending timers of the
ledger and has returned the ledger's turns in their order.

- Asked for a timer, it returns none exactly if all pending turns are due later, and else the first
  queued of those with the least due time, which it has announced.
- Every drain ends, and in one way only. It is so many uses of the queue, and then nothing is due.
- A token that is cancelled loses its timers, as many as were counted, and what a drain returns of
  the others is the same as without it.
- A timer whose token has not been cancelled since it was scheduled has had its first turns, each
  of them once: none before the queue has been asked for it at its time or later, and all whose
  times have come when a drain ends. It has one turn if it has no interval, and else one more after
  each that is before the end of time.
- A timer whose token has been cancelled has had the turns that it had before, and no more. -/
theorem Queue.every_turn_once (uses : List (Use ε)) :
    let s := InUse.after uses
    let l := Ledger.after uses
    (s.queue.timers.Perm (l.pending.map Turn.pending) ∧ s.returned = l.returned.map Turn.fired) ∧
      (∀ now, s.queue.popDue? now = none ↔ ∀ t ∈ l.pending, now < t.due) ∧
      (∀ now fired left, s.queue.popDue? now = some (fired, left) →
        ∃ (before after : List (Turn ε)) (t : Turn ε),
          l.pending = before ++ t :: after ∧ fired = t.fired ∧ t.due ≤ now ∧
          (∀ u ∈ before, t.due < u.due) ∧ (∀ u ∈ after, t.due ≤ u.due) ∧
          s.queue.nextDue? = some t.due) ∧
      (s.queue.nextDue? = none ↔ l.pending = []) ∧
      (∀ now, ∃ fired left, s.queue.Drains now fired left ∧
        (∀ fired' left', s.queue.Drains now fired' left' → fired' = fired ∧ left' = left) ∧
        InUse.after (uses ++ List.replicate fired.length (.pop now)) =
          ⟨left, s.returned ++ fired⟩ ∧
        left.popDue? now = none) ∧
      (∀ owner,
        s.queue.countOf owner = l.pending.countP (·.timer.owner = owner) ∧
        s.queue.countOf owner + (s.queue.cancel owner).timers.length = s.queue.timers.length ∧
        (∀ t, t ∈ (s.queue.cancel owner).timers ↔ t ∈ s.queue.timers ∧ t.owner ≠ owner) ∧
        ∀ now fired left, s.queue.Drains now fired left →
          (s.queue.cancel owner).Drains now (fired.filter (·.owner ≠ owner)) (left.cancel owner)) ∧
      (∀ (before later : List (Use ε)) (u : Use ε) (t : Timer ε),
        uses = before ++ u :: later → u.timer? = some t →
        (.cancel t.owner ∉ later →
          ∃ turns, (l.turnsOf before.length = (List.range turns).map fun k =>
              ⟨before.length, t, k⟩) ∧
            (∀ k < turns, t.HasTurn k ∧ ∃ now, .pop now ∈ later ∧ t.dueAt k ≤ now) ∧
            ∀ now, s.queue.popDue? now = none →
              ∀ k, t.HasTurn k → t.dueAt k ≤ now → k < turns) ∧
        (∀ k, t.interval = 0 → (t.HasTurn k ↔ k = 0)) ∧
        (∀ k, 0 < t.interval → (t.HasTurn (k + 1) ↔ t.dueAt k < .longest)) ∧
        ∀ middle rest : List (Use ε), later = middle ++ .cancel t.owner :: rest →
          l.turnsOf before.length =
            (Ledger.after (before ++ u :: middle)).turnsOf before.length) := by
  intro s l
  have hfollows : s.Follows l := InUse.follows_after uses
  refine ⟨⟨hfollows.timers ▸ arrange_perm _, hfollows.returned⟩,
    fun now => hfollows.popDue?_eq_none_iff, fun now fired left hpop => ?_, ?_, fun now => ?_,
    fun owner => ⟨?_, ?_, fun t => mem_cancel, fun now fired left h => h.cancel owner⟩, ?_⟩
  · obtain ⟨before, after, t, hpending, hfired, hdue, hbefore, hafter, hnext, -⟩ :=
      hfollows.exists_of_popDue? hpop
    exact ⟨before, after, t, hpending, hfired, hdue, hbefore, hafter, hnext⟩
  · rw [nextDue?_eq_none_iff, hfollows.timers, ← List.length_eq_zero_iff,
      (arrange_perm _).length_eq, List.length_map, List.length_eq_zero_iff]
  · obtain ⟨fired, left, hdrains⟩ := exists_drains now s.queue
    refine ⟨fired, left, hdrains, fun fired' left' h' => h'.unique hdrains, ?_,
      hdrains.popDue?_eq_none⟩
    unfold InUse.after
    rw [List.foldl_append]
    exact hdrains.foldl_use s.returned
  · rw [countOf, hfollows.timers, (arrange_perm _).countP_eq, List.countP_map]
    rfl
  · rw [countOf, timers_cancel, ← List.countP_eq_length_filter,
      List.length_eq_countP_add_countP (·.owner = owner)]
    simp
  · rintro before later u t rfl hu
    refine ⟨fun hlater => ?_, fun k h => Timer.hasTurn_iff_of_interval_eq_zero h,
      fun k h => Timer.hasTurn_succ_iff h, ?_⟩
    · obtain ⟨turns, htracks, hreached⟩ := Ledger.exists_tracks hu hlater
      refine ⟨turns, htracks.returned, fun k hk => ⟨htracks.hasTurn k hk, hreached k hk⟩,
        fun now hnone k hturn hdue => ?_⟩
      exact htracks.lt_of_dueAt_le (hfollows.popDue?_eq_none_iff.1 hnone) hturn hdue
    · rintro middle rest rfl
      exact Ledger.turnsOf_cancel hu middle rest

/-- A drain in which one timer has three turns. When the second of them is due, so is a timer that
was queued before it and comes first. -/
theorem Queue.every_turn_once_lap :
    let t : Timer ℕ := ⟨.ofMillis 500, ⟨1⟩, some (.ofMillis 500), 0⟩
    let lap : Use ℕ := .scheduleRepeating t.due (.ofMillis 500) t.owner t.event
    let later : List (Use ℕ) :=
      .schedule (.ofMillis 1000) ⟨2⟩ 1 :: List.replicate 4 (.pop (.ofMillis 1600))
    let s := InUse.after (lap :: later)
    lap.timer? = some t ∧ .cancel t.owner ∉ later ∧
      s.queue.popDue? (.ofMillis 1600) = none ∧
      s.returned = [⟨.ofMillis 500, ⟨1⟩, 0⟩, ⟨.ofMillis 1000, ⟨2⟩, 1⟩, ⟨.ofMillis 1000, ⟨1⟩, 0⟩,
        ⟨.ofMillis 1500, ⟨1⟩, 0⟩] ∧
      ∃ turns, ((Ledger.after (lap :: later)).turnsOf 0 = (List.range turns).map fun k =>
          ⟨0, t, k⟩) ∧
        (∀ k < turns, t.HasTurn k ∧ ∃ now, .pop now ∈ later ∧ t.dueAt k ≤ now) ∧
        ∀ k, t.HasTurn k → t.dueAt k ≤ .ofMillis 1600 → k < turns := by
  intro t lap later s
  have hlater : .cancel t.owner ∉ later := by decide
  have hover : s.queue.popDue? (.ofMillis 1600) = none := popDue?_eq_none_iff.2 (by decide)
  obtain ⟨-, -, -, -, -, -, hturns⟩ := Queue.every_turn_once (lap :: later)
  obtain ⟨huncancelled, -⟩ := hturns [] later lap t rfl rfl
  obtain ⟨turns, hreturned, hreached, hdrained⟩ := huncancelled hlater
  exact ⟨rfl, hlater, hover, by decide, turns, hreturned, hreached, hdrained _ hover⟩

end SpriteStage
