import SpriteStage.Proofs.History

/-!
# What becomes of the actors

The cast of a reachable run has exactly one actor for each id seen (`invariant_follows`). Scripts
and clicks leave the bubbles to the timers (`bubble_actAll`, `click_eq`), and a look at sprites with
the ids that are on the stage changes nobody but for the bubbles (`get?_noticed_of_ids`).
-/

namespace SpriteStage

namespace Cast

/-- Casts in which an id is found alike agree on whether it is there. -/
theorem mem_ids_congr {α : Type} {c d : Cast} {f : Actor → α} {id : SpriteId}
    (h : (c.get? id).map f = (d.get? id).map f) : id ∈ c.ids ↔ id ∈ d.ids := by
  have hsome := congrArg Option.isSome h
  rw [Option.isSome_map, Option.isSome_map] at hsome
  rw [mem_ids_iff, mem_ids_iff, ← Option.isSome_iff_exists, ← Option.isSome_iff_exists, hsome]

end Cast

namespace Run

/-! ## Scripts and clicks -/

/-- Scripts that run bring no actor and take none away. -/
theorem ids_actAll (v : Viewport) (sprites : List Sprite) (c : Cast) :
    (actAll v sprites c).ids = c.ids := by
  unfold actAll
  induction sprites generalizing c with
  | nil => rfl
  | cons s rest ih => rw [List.foldl_cons, ih, Cast.ids_modify]

/-- Scripts that run on a tick leave the bubbles to the timers. -/
theorem bubble_actAll (v : Viewport) (sprites : List Sprite) (c : Cast) (id : SpriteId) :
    ((actAll v sprites c).get? id).map (·.bubble) = (c.get? id).map (·.bubble) := by
  unfold actAll
  induction sprites generalizing c with
  | nil => rfl
  | cons s rest ih =>
    have hact : ∀ a : Actor, (a.act v s.script).bubble = a.bubble := by
      intro a
      unfold Actor.act
      split <;> rfl
    rw [List.foldl_cons, ih, Cast.get?_modify]
    split
    · rw [Option.map_map]
      exact congrFun (congrArg Option.map (funext hact)) _
    · rfl

end Run

namespace Playback

/-- A click changes what an actor looks like and where it is, not what it says. -/
theorem bubble_click (v : Viewport) (i : Instruction) (a : Actor) (hues : Hues) :
    (a.click v i hues).1.bubble = a.bubble := by
  cases i <;> rfl

/-- A click leaves all that is scheduled as it is, and the bubbles. -/
theorem click_eq (p : Playback) (c : Click) :
    ∃ stamp hues cast, p.click c = { p with lastStamp := stamp, hues := hues, cast := cast } ∧
      ∀ id, (cast.get? id).map (·.bubble) = (p.cast.get? id).map (·.bubble) := by
  unfold Playback.click
  split
  · exact ⟨p.lastStamp, p.hues, p.cast, rfl, fun _ => rfl⟩
  · dsimp only
    split
    · exact ⟨some c.stamp, p.hues, p.cast, rfl, fun _ => rfl⟩
    · rename_i actor hactor
      refine ⟨_, _, _, rfl, fun id => ?_⟩
      rw [Cast.get?_modify]
      split
      · rename_i hid
        subst hid
        rw [hactor]
        simp [bubble_click]
      · rfl

/-! ## One actor for each sprite seen -/

/-- The cast has an actor for each id seen, and for no other. -/
def Follows (p : Playback) : Prop := ∀ id, id ∈ p.cast.ids ↔ id ∈ p.seen.map (·.id)

@[simp] theorem ids_scheduleBubbles (p : Playback) (session : Token) :
    (p.scheduleBubbles session).cast.ids = p.cast.ids := Cast.ids_clearBubbles _

/-- After taking notice of sprites the cast has their ids and no others. -/
theorem follows_noticed (p : Playback) (sprites : List Sprite) : (p.noticed sprites).Follows :=
  fun _ => Cast.mem_ids_reconcile

/-- So it has after a look at the program, whether that found anything new or not. -/
theorem Follows.sync {p : Playback} (h : p.Follows) (sprites : List Sprite) :
    (p.sync sprites).Follows := by
  apply sync_cases
  · intro _
    exact h
  · intro _
    exact follows_noticed p sprites
  · intro session schedule _ id
    rw [ids_scheduleBubbles]
    exact follows_noticed p sprites id

theorem Follows.start {p : Playback} (h : p.Follows) : p.start.Follows := by
  intro id
  unfold Playback.start
  rw [ids_scheduleBubbles]
  show id ∈ p.cast.resetRuns.ids ↔ _
  rw [Cast.ids_resetRuns]
  exact h id

theorem Follows.stop {p : Playback} (h : p.Follows) : p.stop.Follows := by
  unfold Playback.stop
  split
  · exact h
  · intro id
    show id ∈ p.cast.clearBubbles.ids ↔ _
    rw [Cast.ids_clearBubbles]
    exact h id

theorem Follows.click {p : Playback} (h : p.Follows) (c : Click) : (p.click c).Follows := by
  obtain ⟨stamp, hues, cast, heq, hbubbles⟩ := p.click_eq c
  rw [heq]
  intro id
  exact (Cast.mem_ids_congr (hbubbles id)).trans (h id)

theorem Follows.acted {r : Run} (h : r.playback.Follows) : r.acted.playback.Follows := by
  intro id
  show id ∈ (Run.actAll _ _ _).ids ↔ _
  rw [Run.ids_actAll]
  exact h id

/-- A tick with a swap looks at the program once more. -/
theorem Follows.tick {r : Run} (h : r.playback.Follows) (session : Token) :
    (r.tick session).playback.Follows := by
  apply Run.tick_cases (P := fun m => m.playback.Follows)
  · exact h.acted
  · intro a b
    have hannounced : (r.acted.announced session a b).Follows := h.acted
    exact hannounced.sync _

/-- No timer takes the cast away from the sprites seen. -/
theorem Follows.firedBy {r : Run} (h : r.playback.Follows) (fired : Fired TimedEvent)
    (left : Queue TimedEvent) : (r.firedBy fired left).playback.Follows := by
  have htaken : (r.taken fired left).playback.Follows := h
  apply Run.firedBy_cases (P := fun m => m.playback.Follows)
  · exact htaken
  · exact htaken.tick _
  · exact htaken
  · intro sprite bubble id
    show id ∈ (Cast.setBubble _ _ _).ids ↔ _
    rw [Cast.ids_setBubble]
    exact h id

/-- A look at sprites with the ids that are on the stage leaves the actors as they are. -/
theorem get?_noticed_of_ids {p : Playback} {sprites : List Sprite}
    (h : ∀ id, id ∈ p.cast.ids ↔ id ∈ sprites.map (·.id)) (id : SpriteId) :
    (p.noticed sprites).cast.get? id = p.cast.get? id := Cast.get?_reconcile_of_ids h id

end Playback

/-- Every call and every firing leaves the cast with one actor for each sprite seen. -/
theorem Run.invariant_follows : Invariant fun r => r.playback.Follows where
  fresh := fun _ _ _ _ => Iff.rfl
  edit := fun h _ => h
  resize := fun h _ => h
  sync := fun h => h.sync _
  start := fun h _ => h.start
  stop := fun h => h.stop
  click := fun h c => h.click c
  fire := fun h _ => h.firedBy _ _
  arrive := fun h _ _ => h

end SpriteStage
