import SpriteStage.Duration

/-!
# Timers

A `Queue` holds pending timers in the order in which they fire: by due time, and those due at the
same time in the order in which they were queued. Every timer belongs to a `Token`, and all timers
of a token are cancelled together. A repeating timer is queued anew when it fires, until it reaches
the end of time.

`Queue.workUntil` bounds how often timers can fire up to a time; `workUntil_popDue?` says that it
shrinks with every one that does.
-/

namespace SpriteStage

/-- The owner of timers. All that counts of a token is which one it is: its number is not shown to
anyone, and no number is issued twice. So the numbers have no bound. In 64 bits they would last for
`2 ^ 63` calls of a playback, for a call takes two at most. -/
structure Token where
  number : Nat
  deriving DecidableEq

/-- The token issued after this one. -/
def Token.next (t : Token) : Token := ⟨t.number + 1⟩

/-- An event that waits for its time. -/
structure Timer (ε : Type) where
  due : Duration
  owner : Token
  /-- The interval of a repeating timer. -/
  every : Option Duration
  event : ε
  deriving DecidableEq

/-- An event whose time has come. -/
structure Fired (ε : Type) where
  time : Duration
  owner : Token
  event : ε
  deriving DecidableEq

/-! ## Order of firing -/

/-- Timers in the order of their due times. -/
def InOrder (timers : List (Timer ε)) : Prop := timers.Pairwise fun a b => a.due ≤ b.due

/-- The timers with one more, after all that are due no later. -/
def insertTimer (t : Timer ε) : List (Timer ε) → List (Timer ε)
  | [] => [t]
  | u :: rest => if u.due ≤ t.due then u :: insertTimer t rest else t :: u :: rest

/-- Nothing but the new timer is added, and nothing is lost. -/
theorem insertTimer_perm (t : Timer ε) (timers : List (Timer ε)) :
    (insertTimer t timers).Perm (t :: timers) := by
  induction timers with
  | nil => exact List.Perm.refl _
  | cons v rest ih =>
    unfold insertTimer
    split
    · exact (ih.cons v).trans (List.Perm.swap t v rest)
    · exact List.Perm.refl _

/-- After an insertion there are the new timer and those of before. -/
theorem mem_insertTimer {t u : Timer ε} {timers : List (Timer ε)} :
    u ∈ insertTimer t timers ↔ u = t ∨ u ∈ timers := by
  rw [(insertTimer_perm t timers).mem_iff, List.mem_cons]

/-- A timer is inserted where the order asks for it. -/
theorem InOrder.insertTimer {timers : List (Timer ε)} (h : InOrder timers) (t : Timer ε) :
    InOrder (insertTimer t timers) := by
  induction timers with
  | nil => simp [SpriteStage.insertTimer, InOrder]
  | cons v rest ih =>
    obtain ⟨hv, hrest⟩ := List.pairwise_cons.1 h
    unfold SpriteStage.insertTimer
    split
    · rename_i hle
      refine List.pairwise_cons.2 ⟨fun u hu => ?_, ih hrest⟩
      rcases mem_insertTimer.1 hu with rfl | hu
      · exact hle
      · exact hv u hu
    · rename_i hlt
      refine List.pairwise_cons.2 ⟨fun u hu => ?_, h⟩
      have hle : t.due ≤ v.due := Nat.le_of_lt (Nat.lt_of_not_le hlt)
      rcases List.mem_cons.1 hu with rfl | hu
      · exact hle
      · exact Nat.le_trans hle (hv u hu)

/-- The pending timers in the order in which they fire. -/
structure Queue (ε : Type) where
  timers : List (Timer ε)
  inOrder : InOrder timers

namespace Queue

/-- No timers. -/
def empty : Queue ε := ⟨[], List.Pairwise.nil⟩

/-- The queue with one more timer. -/
def push (q : Queue ε) (t : Timer ε) : Queue ε := ⟨insertTimer t q.timers, q.inOrder.insertTimer t⟩

/-- Queues an event that happens once. -/
def schedule (q : Queue ε) (due : Duration) (owner : Token) (event : ε) : Queue ε :=
  q.push ⟨due, owner, none, event⟩

/-- Queues an event that happens first at `first` and then again after every interval. -/
def scheduleRepeating (q : Queue ε) (first every : Duration) (owner : Token) (event : ε) :
    Queue ε :=
  q.push ⟨first, owner, some every, event⟩

/-- Drops the timers of a token. -/
def cancel (q : Queue ε) (owner : Token) : Queue ε :=
  ⟨q.timers.filter (·.owner ≠ owner), q.inOrder.filter _⟩

/-- How many timers of a token are pending. -/
def countOf (q : Queue ε) (owner : Token) : Nat := q.timers.countP (·.owner = owner)

/-- When the next timer fires. -/
def nextDue? (q : Queue ε) : Option Duration := q.timers.head?.map (·.due)

/-- A fired timer's next turn, if it repeats and time has not come to its end. -/
def again? (t : Timer ε) : Option (Timer ε) :=
  match t.every with
  | none => none
  | some every => if t.due < t.due + every then some { t with due := t.due + every } else none

/-- Takes the first timer that is due by `now`. -/
def popDue? (q : Queue ε) (now : Duration) : Option (Fired ε × Queue ε) :=
  match q with
  | ⟨[], _⟩ => none
  | ⟨t :: rest, h⟩ =>
    if t.due ≤ now then
      let left : Queue ε := ⟨rest, (List.pairwise_cons.1 h).2⟩
      let left := match again? t with
        | none => left
        | some next => left.push next
      some (⟨t.due, t.owner, t.event⟩, left)
    else none

/-! ## How much can fire -/

/-- How often a timer can fire by `now`, at most. -/
def workOf (now : Duration) (t : Timer ε) : Nat :=
  if t.due ≤ now then
    match t.every with
    | none => 1
    | some _ => now.nanos - t.due.nanos + 1
  else 0

/-- How often the timers of a list can fire by `now`, at most. -/
def totalWork (now : Duration) : List (Timer ε) → Nat
  | [] => 0
  | t :: rest => workOf now t + totalWork now rest

/-- How often timers can fire by `now`, at most. -/
def workUntil (now : Duration) (q : Queue ε) : Nat := totalWork now q.timers

/-- A timer adds its own work, wherever it is put. -/
theorem totalWork_insertTimer (now : Duration) (t : Timer ε) (timers : List (Timer ε)) :
    totalWork now (insertTimer t timers) = workOf now t + totalWork now timers := by
  induction timers with
  | nil => rfl
  | cons u rest ih =>
    unfold insertTimer
    split
    · simp only [totalWork, ih]; omega
    · rfl

/-- The next turn of a timer has less work left than this one had. -/
theorem workOf_again? {now : Duration} {t next : Timer ε} (h : again? t = some next)
    (hdue : t.due ≤ now) : workOf now next < workOf now t := by
  unfold again? at h
  cases hevery : t.every with
  | none => simp [hevery] at h
  | some every =>
    simp only [hevery, Option.ite_none_right_eq_some, Option.some.injEq] at h
    obtain ⟨hlt, rfl⟩ := h
    have hlt : t.due.nanos < (t.due + every).nanos := hlt
    have hdue' : t.due.nanos ≤ now.nanos := hdue
    simp only [workOf, hevery, if_pos hdue]
    split
    · rename_i hle
      have hle : (t.due + every).nanos ≤ now.nanos := hle
      omega
    · omega

/-- Every timer that fires leaves less to fire. -/
theorem workUntil_popDue? {now : Duration} {q left : Queue ε} {fired : Fired ε}
    (h : q.popDue? now = some (fired, left)) : left.workUntil now < q.workUntil now := by
  obtain ⟨timers, order⟩ := q
  cases timers with
  | nil => simp [popDue?] at h
  | cons t rest =>
    simp only [popDue?, Option.ite_none_right_eq_some, Option.some.injEq, Prod.mk.injEq] at h
    obtain ⟨hdue, -, rfl⟩ := h
    have hpos : 0 < workOf now t := by
      unfold workOf
      rw [if_pos hdue]
      split <;> omega
    cases hagain : again? t with
    | none => simp only [workUntil, totalWork]; omega
    | some next =>
      have := workOf_again? hagain hdue
      simp only [workUntil, push, totalWork_insertTimer, totalWork]; omega

end Queue

end SpriteStage
