import SpriteStage.Proofs.Additivity
import SpriteStage.Proofs.Meetings

/-!
# The stage and the sprites seen

The actors on the stage are those of the sprites seen, and the views are theirs, in the order of the
sprites (`views_of_seen`). A look at other sprites keeps the bodies of the actors that stay, sends
newcomers home and drops the others (`body_sync`, `get?_sync_of_newcomer`). What is highlighted is a
pair on the stage, the lower id first (`invariant_pairOnStage`). Together this is what a run holds
between any two calls (`stage_matches_sprites`).
-/

namespace SpriteStage

namespace Playback

/-! ## Views -/

/-- There is one view for each sprite seen, in the order of the sprites, and it is the view of the
sprite's actor. -/
theorem views_of_seen {p : Playback} (h : p.Follows) :
    List.Forall₂ (fun s v => ∃ a, p.cast.get? s.id = some a ∧ v = a.view s.id) p.seen p.views := by
  have hstage : ∀ s ∈ p.seen, ∃ a, p.cast.get? s.id = some a := by
    intro s hs
    exact Cast.mem_ids_iff.1 ((h s.id).2 (List.mem_map_of_mem hs))
  unfold views
  generalize p.seen = sprites at hstage ⊢
  induction sprites with
  | nil => exact List.Forall₂.nil
  | cons s rest ih =>
    obtain ⟨⟨a, ha⟩, hrest⟩ := List.forall_mem_cons.1 hstage
    have hview : p.cast.view? s.id = some (a.view s.id) := by
      rw [Cast.view?, ha]
      rfl
    simp only [List.filterMap_cons, hview]
    exact List.Forall₂.cons ⟨a, ha, rfl⟩ (ih hrest)

/-! ## A look at other sprites -/

variable {p : Playback} {sprites : List Sprite}

/-- What agrees with the sprites seen has their ids, so the stage has followed it already. -/
theorem Follows.get?_reconcile_of_agree (h : p.Follows)
    (hagree : spritesAgree p.seen sprites = true) (id : SpriteId) :
    (p.cast.reconcile sprites).get? id = p.cast.get? id := by
  apply Cast.get?_reconcile_of_ids
  intro id
  rw [h id, ids_eq_of_spritesAgree hagree]

/-- A look at sprites keeps the actors that are there, but for their bubbles. -/
theorem Follows.get?_sync (h : p.Follows) (sprites : List Sprite) (id : SpriteId) :
    (p.sync sprites).cast.get? id = (p.cast.reconcile sprites).get? id ∨
      (p.sync sprites).cast.get? id = (p.cast.reconcile sprites).clearBubbles.get? id := by
  apply sync_cases (P := fun q => q.cast.get? id = (p.cast.reconcile sprites).get? id ∨
    q.cast.get? id = (p.cast.reconcile sprites).clearBubbles.get? id)
  · intro hagree
    exact Or.inl (h.get?_reconcile_of_agree hagree id).symm
  · intro _
    exact Or.inl rfl
  · intro session schedule _
    exact Or.inr rfl

/-- **What a look at sprites does to the bodies.** Those of the sprites' ids that are on the stage
stay, those of newcomers are at home, and there are no others. -/
theorem Follows.body_sync (h : p.Follows) (sprites : List Sprite) (id : SpriteId) :
    ((p.sync sprites).cast.get? id).map Actor.body =
      (sprites.find? (·.id = id)).map fun s => ((p.cast.get? id).getD (.home s)).body := by
  have hcleared : ((p.cast.reconcile sprites).clearBubbles.get? id).map Actor.body =
      ((p.cast.reconcile sprites).get? id).map Actor.body := by
    rw [Cast.get?_clearBubbles, Option.map_map]
    rfl
  have hbody : ((p.sync sprites).cast.get? id).map Actor.body =
      ((p.cast.reconcile sprites).get? id).map Actor.body := by
    rcases h.get?_sync sprites id with hget | hget
    · rw [hget]
    · rw [hget, hcleared]
  rw [hbody, Cast.get?_reconcile, Option.map_map]
  rfl

/-- A newcomer is at home and says nothing. -/
theorem Follows.get?_sync_of_newcomer (h : p.Follows) {id : SpriteId} {s : Sprite}
    (hnew : p.cast.get? id = none) (hs : sprites.find? (·.id = id) = some s) :
    (p.sync sprites).cast.get? id = some (.home s) := by
  have hhome : (p.cast.reconcile sprites).get? id = some (.home s) := by
    rw [Cast.get?_reconcile, hs, hnew]
    rfl
  rcases h.get?_sync sprites id with hget | hget
  · rw [hget, hhome]
  · rw [hget, Cast.get?_clearBubbles, hhome]
    rfl

/-- A look at sprites leaves exactly their ids on the stage. -/
theorem Follows.mem_ids_sync (h : p.Follows) (sprites : List Sprite) (id : SpriteId) :
    id ∈ (p.sync sprites).cast.ids ↔ id ∈ sprites.map (·.id) := by
  rw [h.sync sprites id, ids_seen_sync]

/-! ## The highlighted pair -/

/-- What is highlighted are two actors of the stage, the one of the lower id first. -/
def PairOnStage (p : Playback) : Prop :=
  ∀ a b, p.highlighted = some (a, b) → a < b ∧ a ∈ p.cast.ids ∧ b ∈ p.cast.ids

/-- A pair stays highlighted as long as it stays on the stage. -/
theorem PairOnStage.of_eq {q : Playback} (h : p.PairOnStage) (hids : q.cast.ids = p.cast.ids)
    (hpair : q.highlighted = p.highlighted) : q.PairOnStage := by
  intro a b hq
  rw [hids]
  rw [hpair] at hq
  exact h a b hq

theorem pairOnStage_of_none (h : p.highlighted = none) : p.PairOnStage := by
  intro a b hp
  rw [h] at hp
  simp at hp

/-- An actor that has not departed is still on the stage. -/
theorem mem_ids_noticed {id : SpriteId} (h : id ∈ p.cast.ids)
    (hstays : id ∉ p.cast.departed sprites) : id ∈ (p.noticed sprites).cast.ids := by
  rw [show (p.noticed sprites).cast = p.cast.reconcile sprites from rfl, Cast.mem_ids_reconcile]
  by_contra hgone
  exact hstays (Cast.mem_departed.2 ⟨h, hgone⟩)

/-- A highlight of which one sprite is gone ends. -/
theorem PairOnStage.noticed (h : p.PairOnStage) (sprites : List Sprite) :
    (p.noticed sprites).PairOnStage := by
  intro a b hpair
  have hfilter : p.highlighted.filter (fun pair =>
      pair.1 ∉ p.cast.departed sprites ∧ pair.2 ∉ p.cast.departed sprites) = some (a, b) := hpair
  obtain ⟨hp, hstay⟩ := Option.filter_eq_some_iff.1 hfilter
  obtain ⟨hlt, ha, hb⟩ := h a b hp
  rw [decide_eq_true_eq] at hstay
  exact ⟨hlt, mem_ids_noticed ha hstay.1, mem_ids_noticed hb hstay.2⟩

/-- So the pair is on the stage after every look at the program. -/
theorem PairOnStage.sync (h : p.PairOnStage) (sprites : List Sprite) :
    (p.sync sprites).PairOnStage := by
  apply sync_cases
  · intro _
    exact h
  · intro _
    exact h.noticed sprites
  · intro session schedule _
    exact (h.noticed sprites).of_eq (ids_scheduleBubbles _ _) rfl

theorem PairOnStage.stop (h : p.PairOnStage) : p.stop.PairOnStage := by
  unfold Playback.stop
  split
  · exact h
  · exact pairOnStage_of_none rfl

theorem PairOnStage.click (h : p.PairOnStage) (c : Click) : (p.click c).PairOnStage := by
  obtain ⟨stamp, hues, cast, heq, hbubbles⟩ := p.click_eq c
  rw [heq]
  intro a b hpair
  obtain ⟨hlt, ha, hb⟩ := h a b hpair
  exact ⟨hlt, (Cast.mem_ids_congr (hbubbles a)).2 ha, (Cast.mem_ids_congr (hbubbles b)).2 hb⟩

/-- A pair that a tick swaps is on the stage. -/
theorem pairOnStage_announced {r : Run} {a b : SpriteId} (h : r.swapped? = some (a, b))
    (session : Token) : (r.acted.announced session a b).PairOnStage := by
  intro a' b' heq
  obtain ⟨rfl, rfl⟩ := Prod.mk.inj (Option.some.inj heq)
  obtain ⟨hlt, ha, hb⟩ := Run.mem_ids_of_swapped? h
  rw [← Run.ids_actAll r.playback.viewport r.program.sprites] at ha hb
  exact ⟨hlt, ha, hb⟩

/-- A pair that swaps has been found on the stage. -/
theorem PairOnStage.tick {r : Run} (h : r.playback.PairOnStage) (session : Token) :
    (r.tick session).playback.PairOnStage := by
  rw [Run.tick_eq_swapped?]
  cases hpair : r.swapped? with
  | none => exact h.of_eq (Run.ids_actAll _ _ _) rfl
  | some pair => exact (pairOnStage_announced hpair session).sync _

theorem PairOnStage.firedBy {r : Run} (h : r.playback.PairOnStage) (fired : Fired TimedEvent)
    (left : Queue TimedEvent) : (r.firedBy fired left).playback.PairOnStage := by
  have htaken : (r.taken fired left).playback.PairOnStage := h
  apply Run.firedBy_cases (P := fun m => m.playback.PairOnStage)
  · exact htaken
  · exact htaken.tick _
  · exact pairOnStage_of_none rfl
  · intro sprite bubble
    exact htaken.of_eq (Cast.ids_setBubble _ _ _) rfl

end Playback

namespace Run

/-- Every call and every firing leaves a pair of the stage highlighted, or none. -/
theorem invariant_pairOnStage : Invariant fun r => r.playback.PairOnStage where
  fresh := fun _ _ _ => Playback.pairOnStage_of_none rfl
  edit := fun h _ => h
  resize := fun h _ => h
  sync := fun h => h.sync _
  start := by
    intro r h _
    refine h.of_eq ?_ rfl
    unfold Playback.start
    rw [Playback.ids_scheduleBubbles]
    exact Cast.ids_resetRuns _
  stop := fun h => h.stop
  click := fun h c => h.click c
  fire := fun h _ => h.firedBy _ _
  arrive := fun h _ _ => h

/-! ## What is seen of the program -/

/-- After time has passed, what was seen agrees with the program as it is then. -/
theorem spritesAgree_seen_advance {r : Run} (h : NoNaN r.program.sprites) (dt : Duration) :
    spritesAgree (r.advance dt).playback.seen (r.advance dt).program.sprites = true :=
  ((upToDate_sync (spritesAgree_self_iff_noNaN.2 h)).drain (r.playback.clock + dt)).seen

/-- When a session has begun, what was seen agrees with the program. -/
theorem spritesAgree_seen_play {r : Run} (h : NoNaN r.program.sprites)
    (hstopped : r.playback.isRunning = false) :
    spritesAgree r.play.playback.seen r.play.program.sprites = true := by
  unfold play
  rw [hstopped]
  exact Playback.spritesAgree_seen_sync (spritesAgree_self_iff_noNaN.2 h) r.playback

/-- **The stage matches the sprites.** In every reachable run:

* the stage has an actor for each id seen and for no other, and the views are those of the sprites
  seen, one for each, in their order;
* if the program holds no NaN, what was seen agrees with it after every look at it, after every
  portion of time and after the beginning of a session;
* a look at any sprites leaves their ids on the stage and no others. Whoever stays keeps position,
  angle, looks and whether the script has run. A newcomer is at home, has not turned, looks as
  sprites do at first, has not run and says nothing;
* what is highlighted are two actors of the stage, the lower id first. -/
theorem stage_matches_sprites {r : Run} (h : Reachable r) :
    ((∀ id, id ∈ r.playback.cast.ids ↔ id ∈ r.playback.seen.map (·.id)) ∧
      List.Forall₂ (fun s v => ∃ a, r.playback.cast.get? s.id = some a ∧ v = a.view s.id)
        r.playback.seen r.playback.views) ∧
    (NoNaN r.program.sprites →
      spritesAgree r.sync.playback.seen r.sync.program.sprites = true ∧
      (∀ dt, spritesAgree (r.advance dt).playback.seen (r.advance dt).program.sprites = true) ∧
      (r.playback.isRunning = false →
        spritesAgree r.play.playback.seen r.play.program.sprites = true)) ∧
    (∀ sprites id,
      (id ∈ (r.playback.sync sprites).cast.ids ↔ id ∈ sprites.map (·.id)) ∧
      (∀ a, r.playback.cast.get? id = some a → id ∈ sprites.map (·.id) →
        ∃ a', (r.playback.sync sprites).cast.get? id = some a' ∧ a'.position = a.position ∧
          a'.angle = a.angle ∧ a'.looks = a.looks ∧ a'.hasRun = a.hasRun) ∧
      ∀ s, r.playback.cast.get? id = none → sprites.find? (·.id = id) = some s →
        (r.playback.sync sprites).cast.get? id = some
          { position := ⟨s.x, s.y⟩, angle := 0.0, looks := ⟨true, 100.0, 0.0⟩, hasRun := false,
            bubble := none }) ∧
    ∀ a b, r.playback.highlighted = some (a, b) →
      a < b ∧ a ∈ r.playback.cast.ids ∧ b ∈ r.playback.cast.ids := by
  have hfollows : r.playback.Follows := invariant_follows.reachable h
  refine ⟨⟨hfollows, Playback.views_of_seen hfollows⟩, fun hnumbers => ⟨?_, ?_, ?_⟩, ?_,
    invariant_pairOnStage.reachable h⟩
  · exact Playback.spritesAgree_seen_sync (spritesAgree_self_iff_noNaN.2 hnumbers) r.playback
  · exact spritesAgree_seen_advance hnumbers
  · exact spritesAgree_seen_play hnumbers
  · intro sprites id
    refine ⟨hfollows.mem_ids_sync sprites id, ?_, ?_⟩
    · intro a ha hid
      obtain ⟨a', ha'⟩ := Cast.mem_ids_iff.1 ((hfollows.mem_ids_sync sprites id).2 hid)
      have hbody := hfollows.body_sync sprites id
      rw [ha', ha] at hbody
      obtain ⟨s, -, hsame⟩ := Option.map_eq_some_iff.1 hbody.symm
      obtain ⟨hposition, hangle, hlooks, hrun⟩ := Body.mk.inj hsame
      exact ⟨a', ha', hposition.symm, hangle.symm, hlooks.symm, hrun.symm⟩
    · intro s hnew hs
      exact hfollows.get?_sync_of_newcomer hnew hs

/-- A session on the program of two sprites that meet, and then a look at sprites of which one is
new and one is gone. -/
theorem stage_matches_sprites_newcomer :
    let r := (fresh {} 7 .encounter).play
    let sprites : List Sprite := [⟨⟨3⟩, "Cat 3", 10.0, 20.0, []⟩, ⟨⟨1⟩, "Cat 1", 50.0, 50.0, []⟩]
    (Reachable r ∧ NoNaN r.program.sprites ∧ r.playback.cast.get? ⟨3⟩ = none) ∧
      (∀ dt, spritesAgree (r.advance dt).playback.seen (r.advance dt).program.sprites = true) ∧
      ⟨2⟩ ∉ (r.playback.sync sprites).cast.ids ∧
      (r.playback.sync sprites).cast.get? ⟨3⟩ = some
        { position := ⟨10.0, 20.0⟩, angle := 0.0, looks := ⟨true, 100.0, 0.0⟩, hasRun := false,
          bubble := none } := by
  intro r sprites
  have h : Reachable r := (Reachable.fresh {} 7 .encounter).call .play
  have hnumbers : NoNaN r.program.sprites := spritesAgree_self_iff_noNaN.1 (by decide)
  have hnew : r.playback.cast.get? ⟨3⟩ = none := by decide
  obtain ⟨-, hseen, hlook, -⟩ := stage_matches_sprites h
  obtain ⟨-, -, hhome⟩ := hlook sprites ⟨3⟩
  obtain ⟨hids, -, -⟩ := hlook sprites ⟨2⟩
  refine ⟨⟨h, hnumbers, hnew⟩, (hseen hnumbers).2.1, ?_, hhome _ hnew rfl⟩
  rw [hids]
  decide

end Run

end SpriteStage
