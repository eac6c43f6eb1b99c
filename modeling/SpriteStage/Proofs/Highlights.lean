import SpriteStage.Proofs.Muting
import SpriteStage.Proofs.Swaps

/-!
# How long a pair is highlighted

A session begins in the dark (`Dark`): no pair is highlighted and no end of a highlight is pending.
The tick that swaps highlights its pair and queues the end of it, and from then on the highlight is
on until its ending comes, or until a look at the program finds one of the pair missing (`Lit`). The
lock keeps later ticks from touching either. So between two calls a pair is highlighted exactly if
the session has swapped it, its time is not over, and no look at the program has missed one of the
two since (`highlight_window`).
-/

namespace SpriteStage

namespace Playback

variable {p q : Playback}

/-! ## Endings -/

/-- The times at which a highlight is to end. -/
def endings (p : Playback) : List Duration :=
  (p.queue.timers.filter (·.event = .clearHighlight)).map (·.due)

/-- The ends of highlights are no bubbles, so they are read off what is pending but for those. -/
theorem endings_eq_pending (p : Playback) :
    p.endings = (p.pending.filter (·.event = .clearHighlight)).map (·.due) := by
  have hloud : ∀ t : Timer TimedEvent, decide (t.event = .clearHighlight) =
      (decide (t.event = .clearHighlight) && !t.event.isBubble) := by
    intro t
    cases t.event <;> simp [TimedEvent.isBubble]
  unfold endings pending pendingOf
  rw [List.filter_map, List.filter_filter, List.map_map, List.filter_congr fun t _ => hloud t]
  rfl

/-- A look at the program has no part in the endings. -/
theorem Orderly.endings_sync (h : p.Orderly) (sprites : List Sprite) :
    (p.sync sprites).endings = p.endings := by
  rw [endings_eq_pending, endings_eq_pending, h.pending_sync]

/-- Nothing that is pending has an ending that is over. -/
def Settled (p : Playback) : Prop := ∀ ending ∈ p.endings, p.clock < ending

/-- When nothing is due any more, all that is pending is still to come. -/
theorem settled_of_popDue? (h : p.queue.popDue? q.clock = none) (hqueue : q.queue = p.queue) :
    q.Settled := by
  intro ending hending
  obtain ⟨t, ht, rfl⟩ := List.mem_map.1 hending
  rw [hqueue] at ht
  exact Queue.popDue?_eq_none_iff.1 h t (List.mem_of_mem_filter ht)

/-! ## Dark and lit -/

/-- No pair has been highlighted in the session. -/
structure Dark (p : Playback) : Prop where
  locked : p.swapLocked = false
  highlighted : p.highlighted = none
  endings : p.endings = []

/-- A pair has been highlighted, until a time that is still to come or that is over. As long as it
is to come, the pair is highlighted exactly if it is whole. -/
structure Lit (p : Playback) (pair : SpriteId × SpriteId) (ending : Duration) (whole : Prop) :
    Prop where
  locked : p.swapLocked = true
  light : p.endings = [ending] ∧ (whole → p.highlighted = some pair) ∧
      (¬ whole → p.highlighted = none) ∨
    p.endings = [] ∧ p.highlighted = none ∧ ending ≤ p.clock

/-- The two playbacks have the same highlight, with the same time to go. -/
structure SameLight (p q : Playback) : Prop where
  clock : q.clock = p.clock
  locked : q.swapLocked = p.swapLocked
  highlighted : q.highlighted = p.highlighted
  endings : q.endings = p.endings

theorem Settled.of_same (hp : p.Settled) (h : SameLight p q) : q.Settled := by
  unfold Settled
  rw [h.endings, h.clock]
  exact hp

theorem Dark.of_same (hp : p.Dark) (h : SameLight p q) : q.Dark :=
  ⟨h.locked.trans hp.locked, h.highlighted.trans hp.highlighted, h.endings.trans hp.endings⟩

variable {pair : SpriteId × SpriteId} {ending : Duration} {whole : Prop}

theorem Lit.of_same (hp : p.Lit pair ending whole) (h : SameLight p q) :
    q.Lit pair ending whole := by
  refine ⟨h.locked.trans hp.locked, ?_⟩
  rw [h.endings, h.highlighted, h.clock]
  exact hp.light

/-! ## A look at the program -/

/-- A look at the program lights nobody. -/
theorem Dark.sync (h : p.Dark) (horderly : p.Orderly) (hfollows : p.Follows)
    (sprites : List Sprite) : (p.sync sprites).Dark where
  locked := (alike_sync p sprites).swapLocked.trans h.locked
  highlighted := by
    rw [hfollows.highlighted_sync, h.highlighted]
    rfl
  endings := (horderly.endings_sync sprites).trans h.endings

/-- A pair that is looked at stays whole if both are there. -/
theorem Lit.sync {a b : SpriteId} (h : p.Lit (a, b) ending whole) (horderly : p.Orderly)
    (hfollows : p.Follows) (honstage : p.PairOnStage) (sprites : List Sprite) :
    (p.sync sprites).Lit (a, b) ending
      (whole ∧ a ∈ sprites.map (·.id) ∧ b ∈ sprites.map (·.id)) := by
  have halike := alike_sync p sprites
  refine ⟨halike.swapLocked.trans h.locked, ?_⟩
  rw [horderly.endings_sync, hfollows.highlighted_sync, halike.clock]
  rcases h.light with ⟨hpending, hwhole, hbroken⟩ | ⟨hover, hdark, htime⟩
  · refine Or.inl ⟨hpending, ?_, ?_⟩
    · rintro ⟨hw, ha, hb⟩
      rw [hwhole hw, Option.filter_some, if_pos]
      simp [Cast.mem_departed, ha, hb]
    · intro hmissing
      by_cases hw : whole
      · obtain ⟨-, ha, hb⟩ := honstage a b (hwhole hw)
        rw [hwhole hw, Option.filter_some, if_neg]
        rw [decide_eq_true_eq, Cast.mem_departed, Cast.mem_departed]
        exact fun hstay => hmissing ⟨hw, by_contra fun hgone => hstay.1 ⟨ha, hgone⟩,
          by_contra fun hgone => hstay.2 ⟨hb, hgone⟩⟩
      · rw [hbroken hw]
        rfl
  · rw [hdark]
    exact Or.inr ⟨hover, rfl, htime⟩

/-- Only what holds matters of what makes a pair whole. -/
theorem Lit.of_iff {whole' : Prop} (h : p.Lit pair ending whole) (hwhole : whole ↔ whole') :
    p.Lit pair ending whole' := by
  rwa [← propext hwhole]

/-- Time passes, and the ending comes nearer. -/
theorem Lit.arrive {target : Duration} (h : p.Lit pair ending whole) (hclock : p.clock ≤ target) :
    Lit { p with clock := target } pair ending whole := by
  refine ⟨h.locked, ?_⟩
  rcases h.light with hlight | ⟨hover, hdark, htime⟩
  · exact Or.inl hlight
  · exact Or.inr ⟨hover, hdark, Nat.le_trans htime hclock⟩

/-- Once nothing is pending that is over, a pair is highlighted exactly in its time and while it is
whole. -/
theorem Lit.highlighted_eq [Decidable whole] (h : p.Lit pair ending whole) (hsettled : p.Settled) :
    p.highlighted = if p.clock < ending ∧ whole then some pair else none := by
  rcases h.light with ⟨hpending, hwhole, hbroken⟩ | ⟨-, hdark, htime⟩
  · have hclock : p.clock < ending := by
      apply hsettled
      rw [hpending]
      exact List.mem_singleton_self _
    by_cases hw : whole
    · rw [if_pos ⟨hclock, hw⟩, hwhole hw]
    · rw [if_neg fun h => hw h.2, hbroken hw]
  · rw [if_neg fun h => absurd h.1 (Nat.not_lt_of_le htime), hdark]

end Playback

namespace Run

variable {r : Run} {target : Duration} {fired : Fired TimedEvent} {left : Queue TimedEvent}
  {pair : SpriteId × SpriteId} {ending : Duration} {whole : Prop}

open Playback (Dark Lit SameLight Settled)

/-! ## Firings -/

/-- What fires leaves the endings pending, but for an ending itself. -/
theorem endings_taken (hpop : r.playback.queue.popDue? target = some (fired, left))
    (hevent : fired.event ≠ .clearHighlight) :
    (r.taken fired left).playback.endings = r.playback.endings := by
  show (left.timers.filter _).map _ = _
  rw [Queue.filter_left_of_popDue? hpop]
  · rfl
  · intro t ht
    simpa [ht] using hevent

/-- An ending that fires is the first one that is pending. -/
theorem endings_of_clear {session schedule : Token}
    (h : r.playback.Serving session schedule)
    (hpop : r.playback.queue.popDue? target = some (fired, left))
    (hevent : fired.event = .clearHighlight) :
    r.playback.endings = fired.time :: (r.taken fired left).playback.endings := by
  unfold Playback.endings
  rw [h.timers_of_popDue? hpop (by simp [hevent]), List.filter_cons_of_pos (by simp [hevent])]
  rfl

/-- Another timer that is taken out leaves it dark. -/
theorem dark_taken (h : r.playback.Dark)
    (hpop : r.playback.queue.popDue? target = some (fired, left))
    (hevent : fired.event ≠ .clearHighlight) : (r.taken fired left).playback.Dark :=
  ⟨h.locked, h.highlighted, (endings_taken hpop hevent).trans h.endings⟩

/-- Another timer that is taken out leaves the light on, with its end still pending. -/
theorem lit_taken {session schedule : Token} (h : r.playback.Lit pair ending whole)
    (hserving : r.playback.Serving session schedule)
    (hpop : r.playback.queue.popDue? target = some (fired, left))
    (hevent : fired.event ≠ .clearHighlight) :
    (r.taken fired left).playback.Lit pair ending whole := by
  refine ⟨h.locked, ?_⟩
  rw [endings_taken hpop hevent]
  rcases h.light with hlight | ⟨hover, hdark, htime⟩
  · exact Or.inl hlight
  · exact Or.inr ⟨hover, hdark, Nat.le_trans htime (hserving.clock_le_of_popDue? hpop)⟩

/-- **A lit pair stays lit.** No later tick swaps, and when the ending fires the time is over. -/
theorem lit_firedBy {session schedule : Token} (h : r.playback.Lit pair ending whole)
    (hserving : r.playback.Serving session schedule)
    (hpop : r.playback.queue.popDue? target = some (fired, left)) :
    (r.firedBy fired left).playback.Lit pair ending whole := by
  apply hserving.firedBy_cases hpop (P := fun m => m.playback.Lit pair ending whole)
  · intro hevent
    have htaken := lit_taken h hserving hpop (by simp [hevent])
    rw [tick_eq, if_pos htaken.locked]
    exact htaken.of_same ⟨rfl, rfl, rfl, rfl⟩
  · intro hevent
    have hendings := endings_of_clear hserving hpop hevent
    refine ⟨h.locked, Or.inr ?_⟩
    rcases h.light with ⟨hpending, -⟩ | ⟨hover, -⟩
    · rw [hpending] at hendings
      obtain ⟨rfl, hnone⟩ := List.cons.inj hendings
      exact ⟨hnone.symm, rfl, Nat.le_refl _⟩
    · rw [hover] at hendings
      exact absurd hendings.symm (List.cons_ne_nil _ _)
  · intro sprite bubble hevent
    have htaken := lit_taken h hserving hpop (by simp [hevent])
    exact htaken.of_same ⟨rfl, rfl, rfl, rfl⟩

/-- **A swap lights its pair.** The look that comes with it finds both, for they are on stage. -/
theorem lit_tick {session schedule : Token} {a b : SpriteId} (h : r.playback.Dark)
    (hserving : r.playback.Serving session schedule) (hattended : Attended r)
    (hswap : r.swapped? = some (a, b)) :
    (r.tick session).playback.Lit (a, b) (r.playback.clock + r.playback.settings.highlight)
      True := by
  have hnone : r.playback.queue.timers.filter (·.event = .clearHighlight) = [] :=
    List.map_eq_nil_iff.1 h.endings
  have hannounced : (r.acted.announced session a b).Lit (a, b)
      (r.playback.clock + r.playback.settings.highlight) True := by
    refine ⟨rfl, Or.inl ⟨?_, fun _ => rfl, fun hfalse => absurd trivial hfalse⟩⟩
    show ((insertTimer _ r.playback.queue.timers).filter _).map _ = _
    rw [filter_insertTimer_of_true (by simp) r.playback.queue.inOrder, hnone]
    rfl
  have hfollows : (r.acted.announced session a b).Follows := hattended.acted.follows
  have hlit := hannounced.sync (Or.inr ⟨session, schedule, hserving.acted.announced a b⟩) hfollows
    (Playback.pairOnStage_announced hswap session) (r.program.swapScripts a b).sprites
  obtain ⟨-, ha, hb⟩ := mem_ids_of_swapped? hswap
  rw [hattended.mem_ids_iff, ← Program.ids_swapScripts r.program a b] at ha hb
  rw [tick_eq_swapped?, hswap]
  exact hlit.of_iff (by simp [ha, hb])

/-- What fires in the dark leaves it dark, or is the tick that swaps and lights its pair. -/
theorem dark_firedBy (h : r.playback.Dark) (horderly : r.playback.Orderly)
    (hattended : Attended r) (hpop : r.playback.queue.popDue? target = some (fired, left)) :
    (r.ticksAt fired left).filterMap swapped? = [] ∧ (r.firedBy fired left).playback.Dark ∨
      ∃ a b, r.ticksAt fired left = [r.taken fired left] ∧
        (r.taken fired left).swapped? = some (a, b) ∧
        (r.firedBy fired left).playback.Lit (a, b)
          (fired.time + r.playback.settings.highlight) True := by
  obtain ⟨session, schedule, hserving⟩ := horderly.serving_of_popDue? hpop
  have hquiet : fired.event ≠ .tick → r.ticksAt fired left = [] :=
    fun hevent => if_neg fun h => hevent h.1
  apply hserving.firedBy_cases hpop (P := fun m =>
    (r.ticksAt fired left).filterMap swapped? = [] ∧ m.playback.Dark ∨
      ∃ a b, r.ticksAt fired left = [r.taken fired left] ∧
        (r.taken fired left).swapped? = some (a, b) ∧
        m.playback.Lit (a, b) (fired.time + r.playback.settings.highlight) True)
  · intro hevent
    have htaken := dark_taken h hpop (by simp [hevent])
    have hticks : r.ticksAt fired left = [r.taken fired left] := by
      have hanswers := hserving.answers_fired hpop
      rw [hevent] at hanswers
      exact if_pos ⟨hevent, hanswers⟩
    cases hswap : (r.taken fired left).swapped? with
    | none =>
      refine Or.inl ⟨by rw [hticks, List.filterMap_cons_none hswap, List.filterMap_nil], ?_⟩
      rw [tick_eq_swapped?, hswap]
      exact htaken.of_same ⟨rfl, rfl, rfl, rfl⟩
    | some pair =>
      obtain ⟨a, b⟩ := pair
      exact Or.inr ⟨a, b, hticks, rfl,
        lit_tick htaken (hserving.taken hpop) ⟨hattended.follows, hattended.seen⟩ hswap⟩
  · -- no ending is pending
    intro hevent
    have hendings := endings_of_clear hserving hpop hevent
    rw [h.endings] at hendings
    exact absurd hendings.symm (List.cons_ne_nil _ _)
  · intro sprite bubble hevent
    have htaken := dark_taken h hpop (by simp [hevent])
    rw [hquiet (by simp [hevent])]
    exact Or.inl ⟨rfl, htaken.of_same ⟨rfl, rfl, rfl, rfl⟩⟩

/-! ## Drains -/

/-- A light stays on through a drain, or is off if it ends on the way. -/
theorem lit_drain (target : Duration) (h : r.playback.Lit pair ending whole)
    (horderly : r.playback.Orderly) : (drain target r).playback.Lit pair ending whole := by
  have hboth : (drain target r).playback.Orderly ∧
      (drain target r).playback.Lit pair ending whole := by
    refine forall_drain (P := fun m => m.playback.Orderly ∧ m.playback.Lit pair ending whole) ?_
      ⟨horderly, h⟩
    rintro m fired left ⟨horderly, hlit⟩ hpop
    obtain ⟨session, schedule, hserving⟩ := horderly.serving_of_popDue? hpop
    exact ⟨horderly.firedBy hpop, lit_firedBy hlit hserving hpop⟩
  exact hboth.2

/-- While the lock is closed no tick swaps. -/
theorem swaps_eq_nil_of_locked {ticks : List Run} {locked : Prop} (h : Locks locked ticks)
    (hlocked : locked) : ticks.filterMap swapped? = [] := by
  rcases h.swaps_cases with hnone | ⟨hopen, -⟩
  · exact hnone
  · exact absurd hlocked hopen

/-- A drain in the dark leaves it dark if no tick swaps, and otherwise lights the pair that does. -/
theorem dark_drain (target : Duration) (r : Run) :
    r.playback.Dark → r.playback.Orderly → Attended r →
    ((ticksBy target r).filterMap swapped? = [] → (drain target r).playback.Dark) ∧
    ∀ t ∈ ticksBy target r, ∀ a b, t.swapped? = some (a, b) →
      (drain target r).playback.Lit (a, b) (t.playback.clock + t.playback.settings.highlight)
        True := by
  induction r using drain_induction target with
  | hdone r h =>
    intro hdark _ _
    rw [drain_of_none h, ticksBy, firings_of_none h]
    exact ⟨fun _ => hdark, fun t ht => absurd ht List.not_mem_nil⟩
  | hfire r fired left h ih =>
    intro hdark horderly hattended
    rw [drain_of_some h, ticksBy, firings_of_some h, ticksAmong, List.flatMap_cons,
      List.filterMap_append]
    rcases dark_firedBy hdark horderly hattended h with
      ⟨hquiet, hstill⟩ | ⟨a, b, hticks, hswap, hlit⟩
    · obtain ⟨hdark', hlit'⟩ := ih hstill (horderly.firedBy h) (hattended.firedBy fired left)
      rw [hquiet, List.nil_append]
      refine ⟨hdark', fun t ht a b hswap => ?_⟩
      rcases List.mem_append.1 ht with ht | ht
      · rw [List.filterMap_eq_nil_iff.1 hquiet t ht] at hswap
        simp at hswap
      · exact hlit' t ht a b hswap
    · -- this tick swaps, and the lock is closed for all that follow
      have hlater := swaps_eq_nil_of_locked (plays_drain target (r.firedBy fired left)).locks
        hlit.locked
      rw [hticks, List.filterMap_cons_some hswap]
      refine ⟨fun hnone => absurd hnone (List.cons_ne_nil _ _), fun t ht a' b' hswap' => ?_⟩
      rcases List.mem_cons.1 ht with rfl | ht
      · rw [hswap] at hswap'
        obtain ⟨rfl, rfl⟩ := Prod.mk.inj (Option.some.inj hswap')
        exact lit_drain target hlit (horderly.firedBy h)
      · rw [List.filterMap_eq_nil_iff.1 hlater t ht] at hswap'
        simp at hswap'

/-! ## Calls -/

/-- The sprites that a call of a session looks at, if it looks at any. The look that comes with a
swap is at the same sprites again. -/
def look? (r : Run) : Call → Option (List Sprite)
  | .sync => some r.program.sprites
  | .advance _ => some r.program.sprites
  | _ => none

/-- The sprites that the calls of a session look at, one call after the other. -/
def looks (r : Run) : List Call → List (List Sprite)
  | [] => []
  | c :: rest => (r.look? c).toList ++ (r.call c).looks rest

/-- Both of a pair are among the sprites. -/
def Shows (a b : SpriteId) (sprites : List Sprite) : Prop :=
  a ∈ sprites.map (·.id) ∧ b ∈ sprites.map (·.id)

instance (a b : SpriteId) (sprites : List Sprite) : Decidable (Shows a b sprites) :=
  inferInstanceAs (Decidable (_ ∧ _))

/-- In a session, calls that do not look at the program leave the light as it is. -/
theorem sameLight_call (hrunning : r.playback.isRunning = true) {c : Call} (hends : ¬ c.Ends)
    (hlook : r.look? c = none) : SameLight r.playback (r.call c).playback := by
  have hplay : SameLight r.playback r.play.playback := by
    rw [play_of_running hrunning]
    exact ⟨rfl, rfl, rfl, rfl⟩
  cases c with
  | edit program => exact ⟨rfl, rfl, rfl, rfl⟩
  | resize viewport => exact ⟨rfl, rfl, rfl, rfl⟩
  | sync => exact absurd hlook (Option.some_ne_none _)
  | play => exact hplay
  | stop => exact absurd (Or.inl rfl) hends
  | setPlaying on =>
    cases on with
    | false => exact absurd (Or.inr rfl) hends
    | true => exact hplay
  | advance dt => exact absurd hlook (Option.some_ne_none _)
  | click c =>
    obtain ⟨stamp, hues, cast, heq, -⟩ := r.playback.click_eq c
    show SameLight r.playback (r.playback.click c)
    rw [heq]
    exact ⟨rfl, rfl, rfl, rfl⟩

/-- After every call of a session the ends of highlights are still to come. -/
theorem settled_call (h : Reachable r) (hsettled : r.playback.Settled)
    (hrunning : r.playback.isRunning = true) {c : Call} (hends : ¬ c.Ends) :
    (r.call c).playback.Settled := by
  cases hlook : r.look? c with
  | none => exact hsettled.of_same (sameLight_call hrunning hends hlook)
  | some sprites =>
    cases c with
    | sync =>
      show ∀ ending ∈ (r.playback.sync _).endings, (r.playback.sync _).clock < ending
      rw [(invariant_orderly.reachable h).endings_sync, (Playback.alike_sync _ _).clock]
      exact hsettled
    | advance dt => exact Playback.settled_of_popDue? (popDue?_drain _ _) rfl
    | _ => simp [look?] at hlook

/-- **A lit pair in a call.** It stays whole if the call does not miss one of the two. -/
theorem lit_call {a b : SpriteId} (h : Reachable r) (hlit : r.playback.Lit (a, b) ending whole)
    (hrunning : r.playback.isRunning = true) {c : Call} (hends : ¬ c.Ends) :
    (r.call c).playback.Lit (a, b) ending (whole ∧ ∀ sprites ∈ r.look? c, Shows a b sprites) := by
  have horderly := invariant_orderly.reachable h
  have hsync := hlit.sync horderly (invariant_follows.reachable h)
    (invariant_pairOnStage.reachable h) r.program.sprites
  cases hlook : r.look? c with
  | none =>
    refine (hlit.of_same (sameLight_call hrunning hends hlook)).of_iff ?_
    simp
  | some sprites =>
    cases c with
    | sync =>
      cases hlook
      refine hsync.of_iff ?_
      simp [Shows]
    | advance dt =>
      cases hlook
      have hdrain := lit_drain (r := r.sync) (r.playback.clock + dt) hsync (horderly.sync _)
      refine (hdrain.arrive (clock_drain_sync_le r dt)).of_iff ?_
      simp [Shows]
    | _ => simp [look?] at hlook

/-- A call in the dark leaves it dark if no tick swaps. -/
theorem dark_call (h : Reachable r) (hdark : r.playback.Dark)
    (hrunning : r.playback.isRunning = true) {c : Call} (hends : ¬ c.Ends)
    (hquiet : (r.ticksIn c).filterMap swapped? = []) : (r.call c).playback.Dark := by
  have horderly := invariant_orderly.reachable h
  have hfollows := invariant_follows.reachable h
  have hsync := hdark.sync horderly hfollows r.program.sprites
  cases hlook : r.look? c with
  | none => exact hdark.of_same (sameLight_call hrunning hends hlook)
  | some sprites =>
    cases c with
    | sync => exact hsync
    | advance dt =>
      have hdrain := (dark_drain (r.playback.clock + dt) r.sync hsync (horderly.sync _)
        (attended_sync hfollows)).1 hquiet
      exact ⟨hdrain.locked, hdrain.highlighted, hdrain.endings⟩
    | _ => simp [look?] at hlook

/-- The call in which a tick swaps lights the pair. -/
theorem lit_of_mem_ticksIn (h : Reachable r) (hdark : r.playback.Dark) {c : Call} {t : Run}
    (ht : t ∈ r.ticksIn c) {a b : SpriteId} (hswap : t.swapped? = some (a, b)) :
    (r.call c).playback.Lit (a, b) (t.playback.clock + t.playback.settings.highlight) True := by
  have horderly := invariant_orderly.reachable h
  have hfollows := invariant_follows.reachable h
  cases c with
  | advance dt =>
    have hlit := (dark_drain (r.playback.clock + dt) r.sync
      (hdark.sync horderly hfollows r.program.sprites) (horderly.sync _)
      (attended_sync hfollows)).2 t ht a b hswap
    exact hlit.arrive (clock_drain_sync_le r dt)
  | _ => exact absurd ht List.not_mem_nil

/-! ## Sessions -/

/-- After all calls of a session the ends of highlights are still to come. -/
theorem settled_after {calls : List Call} (h : Reachable r) (hsettled : r.playback.Settled)
    (hrunning : r.playback.isRunning = true) (hsession : ∀ c ∈ calls, ¬ c.Ends) :
    (r.after calls).playback.Settled := by
  induction calls generalizing r with
  | nil => exact hsettled
  | cons c rest ih =>
    obtain ⟨hends, hrest⟩ := List.forall_mem_cons.1 hsession
    exact ih (h.call c) (settled_call h hsettled hrunning hends) (isRunning_call hrunning hends)
      hrest

/-- A pair stays lit until its time is over or one of its sprites has been away. -/
theorem lit_after {a b : SpriteId} {calls : List Call} (h : Reachable r)
    (hlit : r.playback.Lit (a, b) ending whole) (hrunning : r.playback.isRunning = true)
    (hsession : ∀ c ∈ calls, ¬ c.Ends) :
    (r.after calls).playback.Lit (a, b) ending
      (whole ∧ ∀ sprites ∈ r.looks calls, Shows a b sprites) := by
  induction calls generalizing r whole with
  | nil =>
    refine hlit.of_iff ?_
    simp [looks]
  | cons c rest ih =>
    obtain ⟨hends, hrest⟩ := List.forall_mem_cons.1 hsession
    refine (ih (h.call c) (lit_call h hlit hrunning hends) (isRunning_call hrunning hends)
      hrest).of_iff ?_
    rw [looks, List.forall_mem_append, and_assoc]
    simp

/-- As long as no tick swaps, nobody is lit. -/
theorem dark_after {calls : List Call} (h : Reachable r) (hdark : r.playback.Dark)
    (hrunning : r.playback.isRunning = true) (hsession : ∀ c ∈ calls, ¬ c.Ends)
    (hquiet : (r.ticksDuring calls).filterMap swapped? = []) :
    (r.after calls).playback.Dark := by
  induction calls generalizing r with
  | nil => exact hdark
  | cons c rest ih =>
    obtain ⟨hends, hrest⟩ := List.forall_mem_cons.1 hsession
    rw [ticksDuring, List.filterMap_append, List.append_eq_nil_iff] at hquiet
    exact ih (h.call c) (dark_call h hdark hrunning hends hquiet.1)
      (isRunning_call hrunning hends) hrest hquiet.2

/-- A session begins in the dark. -/
theorem dark_play (h : Reachable r) (hstopped : r.playback.isRunning = false) :
    r.play.playback.Dark := by
  have hmode := mode_sync_of_stopped (Playback.isRunning_eq_false_iff.1 hstopped)
  have hrest : r.sync.playback.AtRest :=
    (invariant_orderly.reachable (h.call .sync)).atRest_of_mode hmode
  rw [play_of_stopped hstopped]
  refine ⟨rfl, hrest.highlighted, ?_⟩
  rw [Playback.endings_eq_pending]
  show (r.sync.playback.start.pending.filter _).map _ = []
  rw [hrest.pending_start]
  rfl

theorem ticksDuring_append (r : Run) (first second : List Call) :
    r.ticksDuring (first ++ second) =
      r.ticksDuring first ++ (r.after first).ticksDuring second := by
  induction first generalizing r with
  | nil => rfl
  | cons c rest ih =>
    rw [List.cons_append, ticksDuring, ticksDuring, ih, List.append_assoc]
    rfl

/-- Before the tick that swaps in a session, no tick does. -/
theorem quiet_before_swap {before later : List Call} {c : Call} {t : Run}
    (h : r.playback.isRunning = true) (hopen : r.playback.swapLocked = false)
    (hsession : ∀ d ∈ before ++ c :: later, ¬ d.Ends) (ht : t ∈ (r.after before).ticksIn c)
    {a b : SpriteId} (hswap : t.swapped? = some (a, b)) :
    (r.ticksDuring before).filterMap swapped? = [] := by
  obtain ⟨earlier, others, hticks⟩ := List.append_of_mem ht
  have hlocks := (latches_after h hsession).locks
  have hunlocked : (r.playback.swapLocked = true) = False := by simp [hopen]
  rw [ticksDuring_append, ticksDuring, hticks, hunlocked, List.append_assoc, ← List.append_assoc,
    List.cons_append] at hlocks
  obtain ⟨-, hfirst⟩ := hlocks.swapped_iff_first.1 ⟨_, hswap⟩
  rw [List.filterMap_eq_nil_iff]
  intro u hu
  cases hpair : u.swapped? with
  | none => rfl
  | some pair =>
    have hmeets := (exists_swapped?_iff.1 ⟨pair, hpair⟩).2
    exact absurd hmeets (hfirst u (List.mem_append_left _ hu))

theorem settings_of_mem_ticksIn {c : Call} {t : Run} (ht : t ∈ r.ticksIn c) :
    t.playback.settings = r.playback.settings := by
  cases c with
  | advance dt =>
    refine forall_ticksBy (P := fun m => m.playback.settings = r.playback.settings)
      (fun _ _ _ h => h) ?_ r.sync (Playback.alike_sync _ _).settings t ht
    intro m fired left hm
    rw [settings_firedBy, hm]
  | _ => exact absurd ht List.not_mem_nil

/-- What is stopped stays so unless a session begins. -/
theorem isRunning_call_of_stopped (h : r.playback.isRunning = false) {c : Call}
    (hbegins : ¬ r.Begins c) : (r.call c).playback.isRunning = false := by
  cases c with
  | sync => exact (isRunning_playback_sync _ _).trans h
  | play => exact absurd ⟨h, Or.inl rfl⟩ hbegins
  | stop => exact isRunning_stop r.playback
  | setPlaying on =>
    cases on with
    | false => exact isRunning_stop r.playback
    | true => exact absurd ⟨h, Or.inr rfl⟩ hbegins
  | advance dt => exact (isRunning_advance r dt).trans h
  | click c =>
    obtain ⟨stamp, hues, cast, heq, -⟩ := r.playback.click_eq c
    show (r.playback.click c).isRunning = false
    rw [heq]
    exact h
  | _ => exact h

/-- Every run in which a session is on has come from one that was stopped, by the beginning of the
session and calls that do not end it. -/
theorem exists_session (h : Reachable r) (hrunning : r.playback.isRunning = true) :
    ∃ (q : Run) (calls : List Call), Reachable q ∧ q.playback.isRunning = false ∧
      (∀ c ∈ calls, ¬ c.Ends) ∧ r = q.play.after calls := by
  induction h with
  | fresh settings seed program => simp [fresh, Playback.fresh, Playback.isRunning] at hrunning
  | @call r h c ih =>
    cases hwas : r.playback.isRunning with
    | true =>
      obtain ⟨q, calls, hq, hstopped, hsession, hr⟩ := ih hwas
      have hends : ¬ c.Ends := by
        have hstop := isRunning_stop r.playback
        rintro (rfl | rfl)
        · exact absurd (hstop.symm.trans hrunning) Bool.false_ne_true
        · exact absurd (hstop.symm.trans hrunning) Bool.false_ne_true
      refine ⟨q, calls ++ [c], hq, hstopped, ?_, ?_⟩
      · intro d hd
        rcases List.mem_append.1 hd with hd | hd
        · exact hsession d hd
        · rw [List.mem_singleton.1 hd]
          exact hends
      · rw [hr, after, after, List.foldl_append]
        rfl
    | false =>
      have hbegins : r.Begins c := by
        by_contra hnot
        rw [isRunning_call_of_stopped hwas hnot] at hrunning
        simp at hrunning
      refine ⟨r, [], h, hwas, fun d hd => absurd hd List.not_mem_nil, ?_⟩
      obtain ⟨-, rfl | rfl⟩ := hbegins <;> rfl

/-- **How long a pair is highlighted.** Without a session nothing is highlighted. Every run in which
a session is on comes from one that was stopped, by the beginning of the session and any calls but
its end. After these calls nothing is highlighted if no tick of theirs has swapped. If one has, then
its pair is highlighted exactly as long as the clock has not reached the time of the swap and the
length of a highlight, and all looks at the program since the swap have shown both sprites. -/
theorem highlight_window (h : Reachable r) :
    (r.playback.isRunning = true → ∃ (q : Run) (calls : List Call), Reachable q ∧
      q.playback.isRunning = false ∧ (∀ c ∈ calls, ¬ c.Ends) ∧ r = q.play.after calls) ∧
    (r.playback.isRunning = false →
      r.playback.highlighted = none ∧
      ∀ calls : List Call, (∀ c ∈ calls, ¬ c.Ends) →
        ((r.play.ticksDuring calls).filterMap swapped? = [] →
          (r.play.after calls).playback.highlighted = none) ∧
        ∀ before c later t a b, calls = before ++ c :: later →
          t ∈ (r.play.after before).ticksIn c → t.swapped? = some (a, b) →
          (r.play.after calls).playback.highlighted =
            if (r.play.after calls).playback.clock <
                  t.playback.clock + r.playback.settings.highlight ∧
                ∀ sprites ∈ (r.play.after (before ++ [c])).looks later, Shows a b sprites
            then some (a, b) else none) := by
  refine ⟨exists_session h, fun hstopped => ⟨?_, fun calls hsession => ?_⟩⟩
  · exact ((invariant_orderly.reachable h).atRest_of_mode
      (Playback.isRunning_eq_false_iff.1 hstopped)).highlighted
  have hplay : Reachable r.play := h.call .play
  have hrunning := isRunning_play r
  have hdark := dark_play h hstopped
  refine ⟨fun hquiet => (dark_after hplay hdark hrunning hsession hquiet).highlighted, ?_⟩
  rintro before c later t a b rfl ht hswap
  obtain ⟨hbefore, hends, hlater⟩ := by
    simpa only [List.forall_mem_append, List.forall_mem_cons] using hsession
  have hquiet := quiet_before_swap hrunning hdark.locked hsession ht hswap
  have hstill := dark_after hplay hdark hrunning hbefore hquiet
  have hswapped := lit_of_mem_ticksIn (hplay.after before) hstill ht hswap
  have hafter : (r.play.after (before ++ c :: later)) =
      (r.play.after (before ++ [c])).after later := by
    rw [after, after, after, ← List.foldl_append, List.append_assoc]
    rfl
  have hcall : (r.play.after before).call c = r.play.after (before ++ [c]) := by
    rw [after, after, List.foldl_append]
    rfl
  have hsettings : t.playback.settings = r.playback.settings := by
    rw [settings_of_mem_ticksIn ht, settings_after, settings_play]
  rw [hcall, hsettings] at hswapped
  have hlit := lit_after (hplay.after (before ++ [c])) hswapped
    (isRunning_after hrunning (by
      intro d hd
      exact hsession d (by simp at hd ⊢; tauto))) hlater
  have hsettled := settled_after hplay (by
    intro ending hending
    rw [hdark.endings] at hending
    exact absurd hending List.not_mem_nil) hrunning hsession
  rw [← hafter] at hlit
  exact (hlit.of_iff (iff_of_eq (true_and _))).highlighted_eq hsettled

/-- Two sprites meet on the first tick, at half a second. They are highlighted for 600 milliseconds,
but not once one of them has been away, even if it is back. -/
theorem highlight_window_encounter :
    let r := fresh {} 7 .encounter
    let swap : Call := .advance (.ofMillis 700)
    let away : List Call := [.edit ⟨{}, []⟩, .sync, .edit .encounter, .sync]
    Reachable r ∧ r.playback.isRunning = false ∧
    (∃ t ∈ r.play.ticksIn swap,
      t.playback.clock = .ofMillis 500 ∧ t.swapped? = some (⟨1⟩, ⟨2⟩)) ∧
    (r.play.after [swap, .advance (.ofMillis 399)]).playback.highlighted = some (⟨1⟩, ⟨2⟩) ∧
    (r.play.after [swap, .advance (.ofMillis 400)]).playback.highlighted = none ∧
    (r.play.after (swap :: away)).playback.highlighted = none := by
  intro r swap away
  have h : Reachable r := .fresh {} 7 .encounter
  have hswaps : ∃ t ∈ r.play.ticksIn swap,
      t.playback.clock = .ofMillis 500 ∧ t.swapped? = some (⟨1⟩, ⟨2⟩) := by
    have hmem : (Duration.ofMillis 500, some (⟨1⟩, ⟨2⟩)) ∈
        (ticksWithin (r.play.playback.clock + .ofMillis 700) 2 r.play.sync).map
          fun t => (t.playback.clock, t.swapped?) := by
      decide +kernel
    obtain ⟨t, ht, hshown⟩ := List.mem_map.1 hmem
    exact ⟨t, mem_ticksBy_of_mem_ticksWithin ht, congrArg Prod.fst hshown,
      congrArg Prod.snd hshown⟩
  obtain ⟨t, ht, hclock, hswap⟩ := hswaps
  have hwindow : ∀ later : List Call, (∀ c ∈ swap :: later, ¬ c.Ends) →
      (r.play.after (swap :: later)).playback.highlighted =
        if (r.play.after (swap :: later)).playback.clock < t.playback.clock + .ofMillis 600 ∧
            ∀ sprites ∈ (r.play.after [swap]).looks later, Shows ⟨1⟩ ⟨2⟩ sprites
        then some (⟨1⟩, ⟨2⟩) else none :=
    fun later hsession =>
      (((highlight_window h).2 rfl).2 _ hsession).2 [] swap later t _ _ rfl ht hswap
  have hshows : ∀ sprites ∈ (r.play.after [swap]).looks [.advance (.ofMillis 399)],
      Shows ⟨1⟩ ⟨2⟩ sprites := by
    have hprogram : (r.play.after [swap]).program = Program.encounter.swapScripts ⟨1⟩ ⟨2⟩ := by
      show (r.play.advance (.ofMillis 700)).program = r.play.program.swapScripts ⟨1⟩ ⟨2⟩
      apply program_advance_of_swap 2
      decide +kernel
    intro sprites hsprites
    rw [looks, looks, List.append_nil, look?, hprogram, Option.mem_toList] at hsprites
    cases hsprites
    decide
  refine ⟨h, rfl, ⟨t, ht, hclock, hswap⟩, ?_, ?_, ?_⟩
  · have hearly : r.play.playback.clock + .ofMillis 700 + .ofMillis 399 <
        t.playback.clock + .ofMillis 600 := by
      rw [hclock]
      decide
    rw [hwindow [.advance (.ofMillis 399)] (by simp [swap, Call.Ends])]
    exact if_pos ⟨hearly, hshows⟩
  · have hover : ¬ r.play.playback.clock + .ofMillis 700 + .ofMillis 400 <
        t.playback.clock + .ofMillis 600 := by
      rw [hclock]
      decide
    rw [hwindow [.advance (.ofMillis 400)] (by simp [swap, Call.Ends])]
    exact if_neg fun hwhole => hover hwhole.1
  · have haway : [] ∈ (r.play.after [swap]).looks away := by simp [away, looks, look?, call]
    rw [hwindow away (by simp [swap, away, Call.Ends])]
    exact if_neg fun hwhole => absurd (hwhole.2 [] haway).1 List.not_mem_nil

end Run

end SpriteStage
