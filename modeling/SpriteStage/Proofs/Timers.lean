import Mathlib
import SpriteStage.Timer.Queue

/-!
# What is pending and what fires

Laws of saturating time, and of a queue as the list of its pending timers. A queue is looked at in
three ways: which timers are in it (`mem_schedule`, `mem_cancel`), what is left of it when some of
them are picked out (`filter_insertTimer_of_true`, `filter_insertTimer_of_last`), and what fires
next (`popDue?_eq_none_iff`, `exists_of_popDue?`).
-/

namespace SpriteStage

/-! ## Saturating time -/

namespace Duration

theorem eq_of_nanos {a b : Duration} (h : a.nanos = b.nanos) : a = b := by
  cases a
  cases b
  simpa using h

theorem nanos_longest : longest.nanos = limit - 1 := rfl

/-- Too many nanoseconds are cut to the greatest duration. -/
theorem nanos_ofNanos (n : ℕ) : (ofNanos n).nanos = min n (limit - 1) := by
  unfold ofNanos
  split
  · simp only; omega
  · rw [nanos_longest]; omega

/-- Stopping at the greatest duration once is as good as twice. -/
theorem add_assoc (a b c : Duration) : a + b + c = a + (b + c) := by
  have ha := a.inRange
  have hb := b.inRange
  have hc := c.inRange
  apply eq_of_nanos
  rw [nanos_add, nanos_add, nanos_add, nanos_add]
  omega

/-- More time added leads to a later time, or to the end of time. -/
theorem add_le_add_left {a b : Duration} (h : a ≤ b) (d : Duration) : d + a ≤ d + b := by
  rw [le_iff] at h ⊢
  rw [nanos_add, nanos_add]
  omega

/-- Some time goes by until the greatest duration is reached. -/
theorem lt_add_iff {d e : Duration} (he : 0 < e.nanos) : d < d + e ↔ d < longest := by
  have hd := d.inRange
  rw [lt_iff, lt_iff, nanos_add, nanos_longest]
  omega

end Duration

/-! ## Insertion -/

variable {ε : Type}

/-- A timer that is not picked out does not show. -/
theorem filter_insertTimer_of_false {keep : Timer ε → Bool} {t : Timer ε} (ht : keep t = false)
    (timers : List (Timer ε)) : (insertTimer t timers).filter keep = timers.filter keep := by
  induction timers with
  | nil => simp [insertTimer, ht]
  | cons u rest ih =>
    unfold insertTimer
    split
    · rw [List.filter_cons, List.filter_cons, ih]
    · rw [List.filter_cons_of_neg (by simp [ht])]

/-- A timer that is due no earlier than all others picked out comes last among them. -/
theorem filter_insertTimer_of_last {keep : Timer ε → Bool} {t : Timer ε} (ht : keep t = true)
    {timers : List (Timer ε)} (order : InOrder timers)
    (hlast : ∀ u ∈ timers, keep u = true → u.due ≤ t.due) :
    (insertTimer t timers).filter keep = timers.filter keep ++ [t] := by
  induction timers with
  | nil => simp [insertTimer, ht]
  | cons u rest ih =>
    obtain ⟨hu, hrest⟩ := List.pairwise_cons.1 order
    have hlast' : ∀ v ∈ rest, keep v = true → v.due ≤ t.due :=
      fun v hv => hlast v (List.mem_cons_of_mem u hv)
    unfold insertTimer
    split
    · rw [List.filter_cons, List.filter_cons, ih hrest hlast']
      split <;> rfl
    · rename_i hlt
      -- all that follows is due later than the new timer, so none of it is picked out
      have hnone : (u :: rest).filter keep = [] := by
        rw [List.filter_eq_nil_iff]
        intro v hv hkeep
        have hvt : v.due.nanos ≤ t.due.nanos := hlast v hv hkeep
        have huv : u.due.nanos ≤ v.due.nanos := by
          rcases List.mem_cons.1 hv with rfl | hv
          · exact le_refl _
          · exact hu v hv
        exact hlt (le_trans huv hvt)
      rw [List.filter_cons_of_pos ht, hnone]
      rfl

/-- A timer that is picked out comes to its place among those picked out. -/
theorem filter_insertTimer_of_true {keep : Timer ε → Bool} {t : Timer ε} (ht : keep t = true)
    {timers : List (Timer ε)} (order : InOrder timers) :
    (insertTimer t timers).filter keep = insertTimer t (timers.filter keep) := by
  induction timers with
  | nil => simp [insertTimer, ht]
  | cons u rest ih =>
    obtain ⟨hu, hrest⟩ := List.pairwise_cons.1 order
    by_cases hle : u.due ≤ t.due
    · rw [insertTimer, if_pos hle, List.filter_cons, List.filter_cons, ih hrest]
      split
      · rw [insertTimer, if_pos hle]
      · rfl
    · -- all that follows is due later than the new timer
      have hfirst : ∀ v ∈ (u :: rest).filter keep, ¬ v.due ≤ t.due := by
        intro v hv hvt
        have huv : u.due ≤ v.due := by
          rcases List.mem_cons.1 (List.mem_of_mem_filter hv) with rfl | hv
          · exact Nat.le_refl _
          · exact hu v hv
        exact hle (Nat.le_trans huv hvt)
      rw [insertTimer, if_neg hle, List.filter_cons_of_pos ht]
      generalize (u :: rest).filter keep = kept at hfirst ⊢
      cases kept with
      | nil => rfl
      | cons v later => rw [insertTimer, if_neg (hfirst v List.mem_cons_self)]

/-- What leaves the order of timers alone leaves their places alone. -/
theorem map_insertTimer {f : Timer ε → Timer ε} {t : Timer ε} {timers : List (Timer ε)}
    (hf : ∀ u ∈ timers, (f u).due ≤ (f t).due ↔ u.due ≤ t.due) :
    (insertTimer t timers).map f = insertTimer (f t) (timers.map f) := by
  induction timers with
  | nil => rfl
  | cons u rest ih =>
    obtain ⟨hu, hrest⟩ := List.forall_mem_cons.1 hf
    rw [List.map_cons, insertTimer, insertTimer]
    by_cases hle : u.due ≤ t.due
    · rw [if_pos hle, if_pos (hu.2 hle), List.map_cons, ih hrest]
    · rw [if_neg hle, if_neg (mt hu.1 hle), List.map_cons, List.map_cons]

theorem countP_insertTimer (p : Timer ε → Bool) (t : Timer ε) (timers : List (Timer ε)) :
    (insertTimer t timers).countP p = timers.countP p + if p t then 1 else 0 := by
  rw [(insertTimer_perm t timers).countP_eq, List.countP_cons]

namespace Queue

/-! ## Queueing and cancelling -/

@[simp] theorem timers_schedule (q : Queue ε) (due : Duration) (owner : Token) (event : ε) :
    (q.schedule due owner event).timers = insertTimer ⟨due, owner, none, event⟩ q.timers := rfl

@[simp] theorem timers_scheduleRepeating (q : Queue ε) (first every : Duration) (owner : Token)
    (event : ε) : (q.scheduleRepeating first every owner event).timers =
      insertTimer ⟨first, owner, some every, event⟩ q.timers := rfl

@[simp] theorem timers_cancel (q : Queue ε) (owner : Token) :
    (q.cancel owner).timers = q.timers.filter (·.owner ≠ owner) := rfl

/-- A queued event is pending with those of before. -/
theorem mem_schedule {q : Queue ε} {due : Duration} {owner : Token} {event : ε} {t : Timer ε} :
    t ∈ (q.schedule due owner event).timers ↔ t = ⟨due, owner, none, event⟩ ∨ t ∈ q.timers := by
  rw [timers_schedule, mem_insertTimer]

/-- Cancelling a token drops its timers and keeps all others. -/
theorem mem_cancel {q : Queue ε} {owner : Token} {t : Timer ε} :
    t ∈ (q.cancel owner).timers ↔ t ∈ q.timers ∧ t.owner ≠ owner := by
  rw [timers_cancel, List.mem_filter, decide_eq_true_eq]

theorem nextDue?_eq_none_iff {q : Queue ε} : q.nextDue? = none ↔ q.timers = [] := by
  rw [nextDue?, Option.map_eq_none_iff, List.head?_eq_none_iff]

/-! ## Firing -/

/-- A fired timer's next turn is the same timer, one interval later. -/
theorem again?_eq_some_iff {t next : Timer ε} :
    again? t = some next ↔
      ∃ every, t.every = some every ∧ t.due < t.due + every ∧
        next = { t with due := t.due + every } := by
  unfold again?
  cases t.every with
  | none => simp
  | some every =>
    simp only [Option.ite_none_right_eq_some, Option.some.injEq, exists_eq_left']
    rw [eq_comm (a := next)]

/-- Nothing fires exactly if everything pending is due later. -/
theorem popDue?_eq_none_iff {q : Queue ε} {now : Duration} :
    q.popDue? now = none ↔ ∀ t ∈ q.timers, now < t.due := by
  obtain ⟨timers, order⟩ := q
  cases timers with
  | nil => simp [popDue?]
  | cons t rest =>
    obtain ⟨ht, -⟩ := List.pairwise_cons.1 order
    simp only [popDue?, ite_eq_right_iff, reduceCtorEq, imp_false]
    constructor
    · intro hlater u hu
      have hlater : now.nanos < t.due.nanos := Nat.lt_of_not_le hlater
      rcases List.mem_cons.1 hu with rfl | hu
      · exact hlater
      · exact lt_of_lt_of_le hlater (ht u hu)
    · intro hlater hdue
      have hlt : now.nanos < t.due.nanos := hlater t List.mem_cons_self
      exact absurd hdue (Nat.not_le_of_lt hlt)

/-- What fires is the first pending timer, and all others are due no earlier. It is taken out, and
put back in for its next turn if there is one. -/
theorem exists_of_popDue? {q left : Queue ε} {now : Duration} {fired : Fired ε}
    (h : q.popDue? now = some (fired, left)) :
    ∃ t rest, q.timers = t :: rest ∧ (∀ u ∈ rest, t.due ≤ u.due) ∧ t.due ≤ now ∧
      fired = ⟨t.due, t.owner, t.event⟩ ∧
      left.timers = match again? t with
        | none => rest
        | some next => insertTimer next rest := by
  obtain ⟨timers, order⟩ := q
  cases timers with
  | nil => simp [popDue?] at h
  | cons t rest =>
    simp only [popDue?, Option.ite_none_right_eq_some, Option.some.injEq, Prod.mk.injEq] at h
    obtain ⟨hdue, rfl, rfl⟩ := h
    refine ⟨t, rest, rfl, (List.pairwise_cons.1 order).1, hdue, rfl, ?_⟩
    cases again? t with
    | none => rfl
    | some next => rfl

/-- A timer that is still pending after a firing was pending before, or is the fired one in its next
turn. It is due no earlier than the fired one. -/
theorem mem_left_of_popDue? {q left : Queue ε} {now : Duration} {fired : Fired ε}
    (h : q.popDue? now = some (fired, left)) {u : Timer ε} (hu : u ∈ left.timers) :
    fired.time ≤ u.due ∧ ∃ t ∈ q.timers, u.owner = t.owner ∧ u.event = t.event ∧
      u.every = t.every := by
  obtain ⟨t, rest, htimers, hlater, -, rfl, hleft⟩ := exists_of_popDue? h
  rw [htimers]
  have hrest : u ∈ rest → t.due ≤ u.due ∧ ∃ v ∈ t :: rest, u.owner = v.owner ∧
      u.event = v.event ∧ u.every = v.every :=
    fun hmem => ⟨hlater u hmem, u, List.mem_cons_of_mem t hmem, rfl, rfl, rfl⟩
  rw [hleft] at hu
  cases hagain : again? t with
  | none =>
    rw [hagain] at hu
    exact hrest hu
  | some next =>
    rw [hagain] at hu
    rcases mem_insertTimer.1 hu with rfl | hu
    · obtain ⟨every, -, hlt, rfl⟩ := again?_eq_some_iff.1 hagain
      exact ⟨Nat.le_of_lt hlt, t, List.mem_cons_self, rfl, rfl, rfl⟩
    · exact hrest hu

/-- Timers picked out by their events are left as they were by a firing that is not picked out. -/
theorem filter_left_of_popDue? {q left : Queue ε} {now : Duration} {fired : Fired ε}
    {keep : Timer ε → Bool} (h : q.popDue? now = some (fired, left))
    (hkeep : ∀ t : Timer ε, t.event = fired.event → keep t = false) :
    left.timers.filter keep = q.timers.filter keep := by
  obtain ⟨t, rest, htimers, -, -, rfl, hleft⟩ := exists_of_popDue? h
  have ht : ¬ keep t = true := by simp [hkeep t rfl]
  rw [htimers, List.filter_cons_of_neg ht, hleft]
  cases hagain : again? t with
  | none => rfl
  | some next =>
    obtain ⟨every, -, -, rfl⟩ := again?_eq_some_iff.1 hagain
    have hnext : keep { t with due := t.due + every } = false := hkeep _ rfl
    exact filter_insertTimer_of_false hnext rest

/-- What fires was pending. -/
theorem mem_of_popDue? {q left : Queue ε} {now : Duration} {fired : Fired ε}
    (h : q.popDue? now = some (fired, left)) :
    ∃ t ∈ q.timers, t.due = fired.time ∧ t.owner = fired.owner ∧ t.event = fired.event := by
  obtain ⟨t, rest, htimers, -, -, rfl, -⟩ := exists_of_popDue? h
  exact ⟨t, htimers ▸ List.mem_cons_self, rfl, rfl, rfl⟩

/-- A timer is taken only when it is due. -/
theorem time_le_of_popDue? {q left : Queue ε} {now : Duration} {fired : Fired ε}
    (h : q.popDue? now = some (fired, left)) : fired.time ≤ now := by
  obtain ⟨t, rest, -, -, hdue, rfl, -⟩ := exists_of_popDue? h
  exact hdue

/-- The first timer to fire stays the first when more time is given. -/
theorem popDue?_of_le {q left : Queue ε} {now later : Duration} {fired : Fired ε}
    (h : q.popDue? now = some (fired, left)) (hle : now ≤ later) :
    q.popDue? later = some (fired, left) := by
  obtain ⟨timers, order⟩ := q
  cases timers with
  | nil => simp [popDue?] at h
  | cons t rest =>
    simp only [popDue?, Option.ite_none_right_eq_some] at h ⊢
    exact ⟨Nat.le_trans h.1 hle, h.2⟩

end Queue

end SpriteStage
