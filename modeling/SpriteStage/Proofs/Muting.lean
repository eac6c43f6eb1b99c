import SpriteStage.Proofs.Roster
import SpriteStage.Proofs.Speech

/-!
# Without the bubbles

A program is muted when its bubbles are taken out of the scripts (`Program.muted`). Scripts run the
same without them (`run_muted`), and swapping commutes with muting (`swapScripts_muted`). Of the
timers of a playback all others are left, in their order and whoever owns them (`Playback.pending`):
the bubbles come and go between them and change nothing about them (`pending_sync`,
`Queue.popDue?_of_pendingOf`).
-/

namespace SpriteStage

/-! ## Programs without bubbles -/

/-- The script without its bubbles. -/
def Script.muted (s : Script) : Script := s.filter fun b => !b.instruction.isBubble

/-- The sprite without its bubbles. -/
def Sprite.muted (s : Sprite) : Sprite := { s with script := s.script.muted }

/-- The program without its bubbles. The size of the stage, which is not there for playing, is
forgotten too. -/
def Program.muted (p : Program) : Program := ⟨{}, p.sprites.map Sprite.muted⟩

theorem Script.muted_muted (s : Script) : s.muted.muted = s.muted := by
  unfold muted
  rw [List.filter_filter]
  simp

theorem Program.muted_muted (p : Program) : p.muted.muted = p.muted := by
  unfold muted
  rw [List.map_map]
  congr 1
  apply List.map_congr_left
  intro s _
  simp [Sprite.muted, Script.muted_muted]

/-- A script runs the same without its bubbles. -/
theorem Script.run_muted (s : Script) (position : Position) (looks : Looks) :
    s.muted.run position looks = s.run position looks := by
  unfold run muted
  rw [List.foldl_filter]
  congr 1
  funext pass b
  cases b.instruction <;> rfl

/-- The mark for endless scripts is no bubble. -/
theorem Script.isEndless_muted (s : Script) : s.muted.isEndless = s.isEndless := by
  unfold isEndless muted
  rw [List.any_filter]
  congr 1
  funext b
  cases b.instruction <;> simp [Instruction.isBubble]

/-- A body does the same without the bubbles of its script. -/
theorem Body.act_muted (v : Viewport) (script : Script) (b : Body) :
    b.act v script.muted = b.act v script := by
  unfold act
  rw [Script.run_muted, Script.isEndless_muted]

/-- All bodies do the same without the bubbles of their scripts. -/
theorem actBodies_muted (v : Viewport) (sprites : List Sprite) (bodies : SpriteId → Option Body) :
    actBodies v (sprites.map Sprite.muted) bodies = actBodies v sprites bodies := by
  unfold actBodies
  rw [List.foldl_map]
  simp only [Sprite.muted, funext (Body.act_muted v _)]

namespace Program

theorem ids_muted (p : Program) : p.muted.sprites.map (·.id) = p.sprites.map (·.id) := by
  unfold muted
  rw [List.map_map]
  rfl

theorem sprite?_muted (p : Program) (id : SpriteId) :
    p.muted.sprite? id = (p.sprite? id).map Sprite.muted := by
  unfold sprite? muted
  rw [List.find?_map]
  rfl

theorem nameOf_muted (p : Program) (id : SpriteId) : p.muted.nameOf id = p.nameOf id := by
  unfold nameOf
  rw [sprite?_muted, Option.map_map]
  rfl

theorem script?_muted (p : Program) (id : SpriteId) :
    p.muted.script? id = (p.script? id).map Script.muted := by
  unfold script?
  rw [sprite?_muted, Option.map_map, Option.map_map]
  rfl

/-- A new script and muting may come in either order. -/
theorem setScript_muted (p : Program) (id : SpriteId) (script : Script) :
    (p.setScript id script).muted = p.muted.setScript id script.muted := by
  have hsprites : ∀ sprites : List Sprite, (withScript id script sprites).map Sprite.muted =
      withScript id script.muted (sprites.map Sprite.muted) := by
    intro sprites
    induction sprites with
    | nil => rfl
    | cons s rest ih =>
      rw [List.map_cons, withScript, withScript]
      by_cases hid : s.id = id
      · rw [if_pos hid, if_pos (show s.muted.id = id from hid)]
        rfl
      · rw [if_neg hid, if_neg (show ¬ s.muted.id = id from hid), List.map_cons, ih]
  unfold setScript muted
  rw [hsprites]

/-- To swap the scripts of two sprites and to mute comes to the same either way around. -/
theorem swapScripts_muted (p : Program) (a b : SpriteId) :
    (p.swapScripts a b).muted = p.muted.swapScripts a b := by
  unfold swapScripts
  rw [script?_muted, script?_muted]
  split
  · rfl
  · cases p.script? a with
    | none => rfl
    | some left =>
      cases p.script? b with
      | none => rfl
      | some right =>
        show ((p.setScript a right).setScript b left).muted = _
        rw [setScript_muted, setScript_muted]
        rfl

end Program

/-- A muted script has no cues. -/
theorem Script.cues_muted (sprite : SpriteId) (default : Float) (start : Duration) (s : Script) :
    Script.cues sprite default start s.muted = [] := by
  induction s with
  | nil => rfl
  | cons b rest ih =>
    -- a bubble is not there any more, and all else takes no time
    obtain ⟨id, instruction⟩ := b
    cases instruction <;> exact ih

/-- Without bubbles there is nothing to cue. -/
theorem cueSheet_of_muted {sprites : List Sprite} (h : sprites.map Sprite.muted = sprites)
    (default : Float) : cueSheet sprites default = [] := by
  unfold cueSheet
  rw [← h, List.flatMap_map, List.flatMap_eq_nil_iff]
  intro s _
  exact Script.cues_muted _ _ _ _

/-! ## Timers other than bubbles -/

/-- The timer, whoever owns it. -/
def Timer.unowned {ε : Type} (t : Timer ε) : Timer ε := { t with owner := ⟨0⟩ }

/-- The timers that are no bubbles, in their order and whoever owns them. -/
def pendingOf (timers : List (Timer TimedEvent)) : List (Timer TimedEvent) :=
  (timers.filter fun t => !t.event.isBubble).map Timer.unowned

variable {t : Timer TimedEvent} {timers : List (Timer TimedEvent)}

/-- Pending are the timers that are no bubbles, whoever owns them. -/
theorem mem_pendingOf {u : Timer TimedEvent} :
    u ∈ pendingOf timers ↔ ∃ t ∈ timers, t.event.isBubble = false ∧ t.unowned = u := by
  unfold pendingOf
  simp [List.mem_map, List.mem_filter, and_assoc]

theorem pendingOf_cons (ht : t.event.isBubble = false) (timers : List (Timer TimedEvent)) :
    pendingOf (t :: timers) = t.unowned :: pendingOf timers := by
  simp [pendingOf, ht]

/-- A timer that is no bubble takes the same place among the others without the bubbles. -/
theorem pendingOf_insertTimer (ht : t.event.isBubble = false) (order : InOrder timers) :
    pendingOf (insertTimer t timers) = insertTimer t.unowned (pendingOf timers) := by
  unfold pendingOf
  rw [filter_insertTimer_of_true (by simp [ht]) order]
  exact map_insertTimer fun _ _ => Iff.rfl

/-- What is pending, but for bubbles. -/
def Playback.pending (p : Playback) : List (Timer TimedEvent) := pendingOf p.queue.timers

namespace Queue

variable {q q' left : Queue TimedEvent} {target : Duration} {fired : Fired TimedEvent}

/-- A bubble that fires leaves everything else pending. -/
theorem pendingOf_left_of_bubble (h : q.popDue? target = some (fired, left))
    (hbubble : fired.event.isBubble = true) : pendingOf left.timers = pendingOf q.timers := by
  unfold pendingOf
  rw [filter_left_of_popDue? h]
  intro t ht
  simp [ht, hbubble]

/-- Whoever owns a timer, its turns are the same. -/
theorem again?_unowned (t : Timer TimedEvent) :
    again? t.unowned = (again? t).map Timer.unowned := by
  obtain ⟨due, owner, every, event⟩ := t
  cases every with
  | none => rfl
  | some every =>
    show (if due < due + every then _ else none) =
      Option.map Timer.unowned (if due < due + every then _ else none)
    split <;> rfl

/-- What is left of everything else when something else fires: the next turn of the timer that
fired, if there is one, and the others. -/
theorem pendingOf_left (h : q.popDue? target = some (fired, left))
    (hloud : fired.event.isBubble = false) :
    ∃ t rest, pendingOf q.timers = t :: rest ∧ t.due = fired.time ∧ t.event = fired.event ∧
      pendingOf left.timers = match again? t with
        | none => rest
        | some next => insertTimer next rest := by
  obtain ⟨t, rest, htimers, -, -, rfl, hleft⟩ := exists_of_popDue? h
  have hevent : t.event.isBubble = false := hloud
  have horder : InOrder rest := by
    have horder := q.inOrder
    rw [htimers] at horder
    exact (List.pairwise_cons.1 horder).2
  refine ⟨t.unowned, pendingOf rest, ?_, rfl, rfl, ?_⟩
  · rw [htimers, pendingOf_cons hevent]
  · rw [hleft, again?_unowned]
    cases hnext : again? t with
    | none => rfl
    | some next =>
      obtain ⟨every, -, -, rfl⟩ := again?_eq_some_iff.1 hnext
      exact pendingOf_insertTimer hevent horder

/-- If nothing fires from a queue, nothing fires from one that has the same pending and no
bubbles. -/
theorem popDue?_eq_none_of_pendingOf (hsame : pendingOf q'.timers = pendingOf q.timers)
    (hmute : ∀ t ∈ q'.timers, t.event.isBubble = false) (h : q.popDue? target = none) :
    q'.popDue? target = none := by
  rw [popDue?_eq_none_iff] at h ⊢
  intro t ht
  have hmem : t.unowned ∈ pendingOf q'.timers := mem_pendingOf.2 ⟨t, ht, hmute t ht, rfl⟩
  rw [hsame] at hmem
  obtain ⟨u, hu, -, heq⟩ := mem_pendingOf.1 hmem
  have hdue : u.unowned.due = t.unowned.due := by rw [heq]
  show target < t.unowned.due
  rw [← hdue]
  exact h u hu

/-- If anything but a bubble fires from a queue, the same fires from one that has the same pending
and no bubbles, and they still have the same pending. -/
theorem popDue?_of_pendingOf (hsame : pendingOf q'.timers = pendingOf q.timers)
    (hmute : ∀ t ∈ q'.timers, t.event.isBubble = false)
    (h : q.popDue? target = some (fired, left)) (hloud : fired.event.isBubble = false) :
    ∃ fired' left', q'.popDue? target = some (fired', left') ∧ fired'.time = fired.time ∧
      fired'.event = fired.event ∧ pendingOf left'.timers = pendingOf left.timers := by
  obtain ⟨t, rest, hpending, hdue, hevent, hleft⟩ := pendingOf_left h hloud
  have hfires : q'.popDue? target ≠ none := by
    intro hnone
    have hmem : t ∈ pendingOf q'.timers := by
      rw [hsame, hpending]
      exact List.mem_cons_self
    obtain ⟨u, hu, -, rfl⟩ := mem_pendingOf.1 hmem
    have hlater : target < u.due := popDue?_eq_none_iff.1 hnone u hu
    have hnow : u.due ≤ target := by
      rw [show u.due = fired.time from hdue]
      exact time_le_of_popDue? h
    exact absurd hnow (Nat.not_le_of_lt hlater)
  obtain ⟨⟨fired', left'⟩, hpop⟩ := Option.ne_none_iff_exists'.1 hfires
  have hloud' : fired'.event.isBubble = false := by
    obtain ⟨u, hu, -, -, heq⟩ := mem_of_popDue? hpop
    rw [← heq]
    exact hmute u hu
  obtain ⟨t', rest', hpending', hdue', hevent', hleft'⟩ := pendingOf_left hpop hloud'
  rw [hsame, hpending] at hpending'
  obtain ⟨rfl, rfl⟩ := List.cons.inj hpending'
  exact ⟨fired', left', hpop, hdue'.symm.trans hdue, hevent'.symm.trans hevent,
    hleft'.trans hleft.symm⟩

end Queue

namespace Playback

variable {p : Playback}

/-! ## What is pending after calls -/

/-- Bubbles that are queued change nothing about the others. -/
theorem pendingOf_queueCues (start : Duration) (schedule : Token) (cues : List Cue)
    (q : Queue TimedEvent) :
    pendingOf (queueCues start schedule cues q).timers = pendingOf q.timers := by
  unfold pendingOf
  rw [filter_queueCues_of_false]
  intro cue _
  rfl

/-- A look at the program changes nothing that is pending but bubbles. -/
theorem Orderly.pending_sync (h : p.Orderly) (sprites : List Sprite) :
    (p.sync sprites).pending = p.pending := by
  apply sync_cases (P := fun q => q.pending = p.pending)
  · intro _
    rfl
  · intro _
    rfl
  · intro session schedule hmode
    have hnoticed := (h.serving_of_mode hmode).noticed sprites
    unfold pending
    rw [queue_scheduleBubbles, pendingOf_queueCues, hnoticed.timers_unscheduled]
    unfold pendingOf
    rw [List.filter_filter]
    simp only [Bool.and_self]
    rfl

/-- When a session has begun, its first tick is pending. -/
theorem AtRest.pending_start (h : p.AtRest) :
    p.start.pending = [⟨p.clock + p.settings.tickInterval, ⟨0⟩, some p.settings.tickInterval,
      .tick⟩] := by
  unfold pending Playback.start
  rw [queue_scheduleBubbles, pendingOf_queueCues]
  simp only [unscheduled, h.mode, Queue.timers_scheduleRepeating, h.timers]
  rfl

theorem AtRest.pending (h : p.AtRest) : p.pending = [] := by
  unfold Playback.pending
  rw [h.timers]
  rfl

/-- Without bubbles in the sprites seen, scheduling them queues nothing. -/
theorem isBubble_scheduleBubbles (hseen : p.seen.map Sprite.muted = p.seen)
    (htimers : ∀ t ∈ p.queue.timers, t.event.isBubble = false) (session : Token) :
    ∀ t ∈ (p.scheduleBubbles session).queue.timers, t.event.isBubble = false := by
  intro t ht
  rw [queue_scheduleBubbles, mem_queueCues, cueSheet_of_muted hseen] at ht
  rcases ht with ht | ⟨cue, hcue, -⟩
  · exact htimers t (mem_of_mem_unscheduled ht)
  · exact absurd hcue List.not_mem_nil

/-! ## Bodies and highlights -/

/-- A look at the program depends on the bodies there are, and not on the bubbles. -/
theorem Follows.bodies_sync (h : p.Follows) (program : Program) (id : SpriteId) :
    ((p.sync program.sprites).cast.get? id).map Actor.body =
      (program.muted.sprite? id).map fun s =>
        ((p.cast.get? id).map Actor.body).getD (Actor.home s).body := by
  rw [h.body_sync, Program.sprite?_muted, Option.map_map]
  congr 1
  funext s
  cases p.cast.get? id <;> rfl

/-- A highlight stays in a look at the program if no one of the pair departs. -/
theorem Follows.highlighted_sync (h : p.Follows) (sprites : List Sprite) :
    (p.sync sprites).highlighted = p.highlighted.filter fun pair =>
      pair.1 ∉ p.cast.departed sprites ∧ pair.2 ∉ p.cast.departed sprites := by
  apply sync_cases (P := fun q => q.highlighted = p.highlighted.filter fun pair =>
    pair.1 ∉ p.cast.departed sprites ∧ pair.2 ∉ p.cast.departed sprites)
  · intro hagree
    have hnone : p.cast.departed sprites = [] := by
      apply Cast.departed_eq_nil
      intro id hid
      rw [← ids_eq_of_spritesAgree hagree]
      exact (h id).1 hid
    rw [hnone]
    cases p.highlighted with
    | none => rfl
    | some pair => simp [Option.filter_some]
  · intro _
    rfl
  · intro session schedule _
    rfl

/-- A click changes a body in a way that does not depend on the bubble. -/
theorem body_click {a b : Actor} (h : a.body = b.body) (v : Viewport) (i : Instruction)
    (hues : Hues) : (a.click v i hues).1.body = (b.click v i hues).1.body ∧
      (a.click v i hues).2 = (b.click v i hues).2 := by
  obtain ⟨position, angle, looks, hasRun, bubble⟩ := a
  obtain ⟨position', angle', looks', hasRun', bubble'⟩ := b
  obtain ⟨rfl, rfl, rfl, rfl⟩ := Body.mk.inj h
  cases i <;> exact ⟨rfl, rfl⟩

/-- The end of a session cancels its timers and takes bubbles and highlight away. -/
theorem stop_of_running {session schedule : Token}
    (h : p.mode = .running session schedule) :
    p.stop = { p with
      mode := .stopped
      queue := (p.queue.cancel session).cancel schedule
      cast := p.cast.clearBubbles
      highlighted := none } := by
  unfold stop
  simp only [h]

theorem stop_of_stopped (h : p.isRunning = false) : p.stop = p := by
  unfold stop
  simp only [isRunning_eq_false_iff.1 h]

end Playback

namespace Cast

/-- A bubble that changes leaves every body as it is. -/
theorem body_setBubble (c : Cast) (sprite : SpriteId) (bubble : Option Bubble) (id : SpriteId) :
    ((c.setBubble sprite bubble).get? id).map Actor.body = (c.get? id).map Actor.body := by
  rw [get?_setBubble]
  split
  · rw [Option.map_map]
    rfl
  · rfl

theorem body_clearBubbles (c : Cast) (id : SpriteId) :
    (c.clearBubbles.get? id).map Actor.body = (c.get? id).map Actor.body := by
  rw [get?_clearBubbles, Option.map_map]
  rfl

/-- Where the bodies are the same, the positions are. -/
theorem positions_congr {c d : Cast}
    (h : ∀ id, (c.get? id).map Actor.body = (d.get? id).map Actor.body) :
    c.positions = d.positions := by
  have hascending : ∀ c : Cast, Ascending c.positions := by
    intro c
    unfold Ascending
    rw [positions_keys]
    exact c.ascending
  have hposition : ∀ (c : Cast) (id : SpriteId) (p : Position),
      (id, p) ∈ c.positions ↔ ((c.get? id).map Actor.body).map Body.position = some p := by
    intro c id p
    rw [mem_positions_iff, Option.map_map, Option.map_eq_some_iff]
    rfl
  apply (hascending c).eq_of_mem_iff (hascending d)
  rintro ⟨id, p⟩
  rw [hposition, hposition, h id]

end Cast

end SpriteStage
