import SpriteStage.Proofs.Actors
import SpriteStage.Proofs.Agreement
import SpriteStage.Proofs.Ids

/-!
# A tick as a step of its own

Ticks read and change only a part of a run: the program, the actors without their bubbles, the lock
and what is told of the last swap (`TickState`). On it a tick is a pure step (`TickState.step`), and
`tickState_tick` says that a tick of a run is this step, as long as the stage holds the sprites of
the program (`Staged`). What a look at the program or another firing changes is not in that part
(`tickState_sync`).
-/

namespace SpriteStage

/-! ## The pure step -/

/-- An actor without its bubble. -/
structure Body where
  position : Position
  angle : Float
  looks : Looks
  hasRun : Bool

/-- The part of an actor that ticks change. -/
def Actor.body (a : Actor) : Body := ⟨a.position, a.angle, a.looks, a.hasRun⟩

/-- The body after its script's turn: the script runs if it has not run yet or is endless. -/
def Body.act (v : Viewport) (script : Script) (b : Body) : Body :=
  if b.hasRun = false ∨ script.isEndless = true then
    let pass := script.run b.position b.looks
    { position := v.clamp pass.position
      angle := b.angle + pass.turned
      looks := pass.looks
      hasRun := true }
  else b

/-- The bodies after the scripts of the sprites have had their turns, in the order of the list. -/
def actBodies (v : Viewport) (sprites : List Sprite) (bodies : SpriteId → Option Body) :
    SpriteId → Option Body :=
  sprites.foldl
    (fun bodies s id => if id = s.id then (bodies id).map (Body.act v s.script) else bodies id)
    bodies

/-- What ticks read and change. -/
@[ext] structure TickState where
  program : Program
  bodies : SpriteId → Option Body
  locked : Bool
  lastSwap : Option SwapNotice

/-- When the tick of that number comes: the ticks are an interval apart, and the first one comes an
interval after the start. -/
def PlaybackSettings.tickTime (s : PlaybackSettings) (start : Duration) (n : ℕ) : Duration :=
  .ofNanos (start.nanos + n * s.tickInterval.nanos)

namespace TickState

/-- The positions of the program's sprites, in the order of the list. -/
def places (t : TickState) : List (SpriteId × Position) :=
  (t.program.sprites.map (·.id)).filterMap fun id => (t.bodies id).map fun b => (id, b.position)

/-- The state after the scripts have had their turns. -/
def act (v : Viewport) (t : TickState) : TickState :=
  { t with bodies := actBodies v t.program.sprites t.bodies }

/-- The state after the scripts of two sprites have been exchanged, at a time. -/
def exchange (now : Duration) (a b : SpriteId) (t : TickState) : TickState :=
  { t with
    program := t.program.swapScripts a b
    locked := true
    lastSwap := some ⟨t.program.nameOf a, t.program.nameOf b, now.asMillis⟩ }

/-- One tick at a time. The scripts have their turns, and then, if the lock is open, the first close
pair exchange their scripts and the lock closes. -/
def step (s : PlaybackSettings) (v : Viewport) (now : Duration) (t : TickState) : TickState :=
  let t := t.act v
  if t.locked then t
  else
    match firstClosePair? t.places s.swapDistance with
    | some (a, b) => t.exchange now a b
    | none => t

/-- The state after so many ticks. -/
def ticked (s : PlaybackSettings) (v : Viewport) (start : Duration) (t : TickState) : ℕ → TickState
  | 0 => t
  | n + 1 => (ticked s v start t n).step s v (s.tickTime start (n + 1))

end TickState

/-- The part of a run that ticks read and change. -/
def Run.tickState (r : Run) : TickState where
  program := r.program
  bodies := fun id => (r.playback.cast.get? id).map Actor.body
  locked := r.playback.swapLocked
  lastSwap := r.playback.lastSwap

/-! ## The order of positions -/

/-- Positions are looked through in the order of their ids. -/
theorem pairwise_mergeSort_ids (l : List (SpriteId × Position)) :
    (l.mergeSort fun a b => decide (a.1 ≤ b.1)).Pairwise fun a b => a.1 ≤ b.1 := by
  have htrans : ∀ a b c : SpriteId × Position, decide (a.1 ≤ b.1) = true →
      decide (b.1 ≤ c.1) = true → decide (a.1 ≤ c.1) = true := by
    intro a b c hab hbc
    rw [decide_eq_true_eq] at hab hbc ⊢
    exact UInt32.le_trans hab hbc
  have htotal : ∀ a b : SpriteId × Position,
      (decide (a.1 ≤ b.1) || decide (b.1 ≤ a.1)) = true := by
    intro a b
    rw [Bool.or_eq_true, decide_eq_true_eq, decide_eq_true_eq]
    exact UInt32.le_total _ _
  refine (List.pairwise_mergeSort htrans htotal l).imp ?_
  intro a b hab
  exact of_decide_eq_true hab

/-- Which pair is the first close one does not depend on the order of the positions, if no id comes
twice. -/
theorem firstClosePair?_of_perm {l m : List (SpriteId × Position)} (hperm : l.Perm m)
    (hkeys : (m.map (·.1)).Nodup) (distance : Float) :
    firstClosePair? l distance = firstClosePair? m distance := by
  have hsorted : l.mergeSort (fun a b => decide (a.1 ≤ b.1)) =
      m.mergeSort (fun a b => decide (a.1 ≤ b.1)) := by
    refine List.Perm.eq_of_pairwise ?_ (pairwise_mergeSort_ids l) (pairwise_mergeSort_ids m)
      (((List.mergeSort_perm l _).trans hperm).trans (List.mergeSort_perm m _).symm)
    intro a b ha hb hab hba
    have hkey : a.1 = b.1 := congrArg SpriteId.mk (UInt32.le_antisymm hab hba)
    have ha : a ∈ m := hperm.mem_iff.1 (List.mem_mergeSort.1 ha)
    have hb : b ∈ m := List.mem_mergeSort.1 hb
    exact List.inj_on_of_nodup_map hkeys ha hb hkey
  rw [firstClosePair?, firstClosePair?, hsorted]

/-! ## Ids of sprites -/

/-- The same sprites but for the signs of their zeros have the same ids. -/
theorem ids_of_unsigned {as bs : List Sprite}
    (h : as.map Sprite.unsigned = bs.map Sprite.unsigned) : as.map (·.id) = bs.map (·.id) := by
  have hids := congrArg (List.map (·.id)) h
  rwa [List.map_map, List.map_map] at hids

/-- Sprites that agree have the same ids. -/
theorem ids_eq_of_spritesAgree {as bs : List Sprite} (h : spritesAgree as bs = true) :
    as.map (·.id) = bs.map (·.id) := ids_of_unsigned ((spritesAgree_iff as bs).1 h).1

/-- What was seen last has the ids that are there to see. -/
theorem Playback.ids_seen_sync (p : Playback) (sprites : List Sprite) :
    (p.sync sprites).seen.map (·.id) = sprites.map (·.id) :=
  ids_of_unsigned (p.unsigned_seen_sync sprites)

namespace Run

/-! ## The sprites on the stage -/

/-- The sprites of the program have their own ids, and they are the ones on the stage. -/
structure Staged (r : Run) : Prop where
  unique : (r.program.sprites.map (·.id)).Nodup
  follows : r.playback.Follows
  seen : r.playback.seen.map (·.id) = r.program.sprites.map (·.id)

variable {r : Run}

/-- The stage holds the actors of the program's sprites, whether these have their own ids or not. -/
structure Attended (r : Run) : Prop where
  follows : r.playback.Follows
  seen : r.playback.seen.map (·.id) = r.program.sprites.map (·.id)

/-- A staged run is attended; that its ids are distinct is not asked for. -/
theorem Staged.attended (h : Staged r) : Attended r := ⟨h.follows, h.seen⟩

/-- An attended run whose sprites have their own ids is staged. -/
theorem Attended.staged (h : Attended r) (hids : (r.program.sprites.map (·.id)).Nodup) : Staged r :=
  ⟨hids, h.follows, h.seen⟩

/-- On the stage of an attended run are the sprites of its program. -/
theorem Attended.mem_ids_iff (h : Attended r) (id : SpriteId) :
    id ∈ r.playback.cast.ids ↔ id ∈ r.program.sprites.map (·.id) := by
  rw [h.follows id, h.seen]

theorem Staged.mem_ids_iff (h : Staged r) (id : SpriteId) :
    id ∈ r.playback.cast.ids ↔ id ∈ r.program.sprites.map (·.id) := h.attended.mem_ids_iff id

/-- After a look at the program its sprites are on the stage. -/
theorem attended_sync (hfollows : r.playback.Follows) : Attended r.sync :=
  ⟨hfollows.sync _, Playback.ids_seen_sync _ _⟩

/-- After a look at the program its sprites are on the stage. -/
theorem staged_sync (hfollows : r.playback.Follows)
    (hids : (r.program.sprites.map (·.id)).Nodup) : Staged r.sync :=
  (attended_sync hfollows).staged hids

/-- A tick changes the scripts of sprites, not who they are. -/
theorem ids_tick (r : Run) (session : Token) :
    (r.tick session).program.sprites.map (·.id) = r.program.sprites.map (·.id) := by
  apply tick_cases (P := fun m => m.program.sprites.map (·.id) = r.program.sprites.map (·.id))
  · rfl
  · intro a b
    rw [swap_eq, Program.ids_swapScripts]
    rfl

theorem ids_firedBy (r : Run) (fired : Fired TimedEvent) (left : Queue TimedEvent) :
    (r.firedBy fired left).program.sprites.map (·.id) = r.program.sprites.map (·.id) := by
  apply firedBy_cases (P := fun m => m.program.sprites.map (·.id) = r.program.sprites.map (·.id))
  · rfl
  · rw [ids_tick]
    rfl
  · rfl
  · intro sprite bubble
    rfl

theorem ids_advance (r : Run) (dt : Duration) :
    (r.advance dt).program.sprites.map (·.id) = r.program.sprites.map (·.id) := by
  refine forall_drain (P := fun m => m.program.sprites.map (·.id) = r.program.sprites.map (·.id))
    ?_ rfl
  intro m fired left hm _
  rw [ids_firedBy, hm]

theorem Attended.acted (h : Attended r) : Attended r.acted := ⟨h.follows.acted, h.seen⟩

theorem Staged.acted (h : Staged r) : Staged r.acted := h.attended.acted.staged h.unique

/-- A swap looks at the program that it leaves. -/
theorem Attended.swap (h : Attended r) (session : Token) (a b : SpriteId) :
    Attended (r.swap session a b) := by
  rw [swap_eq]
  have hannounced : (r.announced session a b).Follows := h.follows
  exact ⟨hannounced.sync _, Playback.ids_seen_sync _ _⟩

theorem Attended.tick (h : Attended r) (session : Token) : Attended (r.tick session) := by
  apply tick_cases
  · exact h.acted
  · intro a b
    exact h.acted.swap session a b

theorem Staged.tick (h : Staged r) (session : Token) : Staged (r.tick session) :=
  (h.attended.tick session).staged (by rw [ids_tick]; exact h.unique)

theorem Attended.firedBy (h : Attended r) (fired : Fired TimedEvent) (left : Queue TimedEvent) :
    Attended (r.firedBy fired left) := by
  have htaken : Attended (r.taken fired left) := ⟨h.follows, h.seen⟩
  have hfollows := h.follows.firedBy fired left
  revert hfollows
  apply firedBy_cases (P := fun m => m.playback.Follows → Attended m)
  · intro _
    exact htaken
  · intro _
    exact htaken.tick _
  · intro hfollows
    exact ⟨hfollows, h.seen⟩
  · intro sprite bubble hfollows
    exact ⟨hfollows, h.seen⟩

theorem Staged.firedBy (h : Staged r) (fired : Fired TimedEvent) (left : Queue TimedEvent) :
    Staged (r.firedBy fired left) :=
  (h.attended.firedBy fired left).staged (by rw [ids_firedBy]; exact h.unique)

/-- The sprites of the program stay on the stage as time passes. -/
theorem Staged.advance (h : Staged r) (dt : Duration) : Staged (r.advance dt) := by
  have hdrain : Staged (drain (r.playback.clock + dt) r.sync) :=
    forall_drain (fun _ fired left hm _ => hm.firedBy fired left) (staged_sync h.follows h.unique)
  exact ⟨hdrain.unique, hdrain.follows, hdrain.seen⟩

/-- The positions of the program's sprites are those of the cast, in another order. -/
theorem Staged.perm_places (h : Staged r) :
    r.tickState.places.Perm r.playback.cast.positions := by
  have hcast : r.playback.cast.positions.Nodup := by
    refine List.Nodup.of_map (·.1) ?_
    rw [Cast.positions_keys]
    exact r.playback.cast.ascending.keys_nodup
  have hplaces : r.tickState.places.Nodup := by
    refine h.unique.filterMap ?_
    intro id id' entry hid hid'
    obtain ⟨b, -, rfl⟩ := Option.map_eq_some_iff.1 hid
    obtain ⟨b', -, heq⟩ := Option.map_eq_some_iff.1 hid'
    exact (congrArg Prod.fst heq).symm
  rw [List.perm_ext_iff_of_nodup hplaces hcast]
  rintro ⟨id, position⟩
  rw [Cast.mem_positions_iff, TickState.places, List.mem_filterMap]
  constructor
  · rintro ⟨id', -, hentry⟩
    obtain ⟨b, hb, heq⟩ := Option.map_eq_some_iff.1 hentry
    obtain ⟨a, ha, rfl⟩ := Option.map_eq_some_iff.1 hb
    obtain ⟨rfl, rfl⟩ := Prod.mk.inj heq
    exact ⟨a, ha, rfl⟩
  · rintro ⟨a, ha, rfl⟩
    refine ⟨id, (h.mem_ids_iff id).1 (Cast.mem_ids_iff.2 ⟨a, ha⟩), ?_⟩
    show (((r.playback.cast.get? id).map Actor.body).map _) = _
    rw [ha]
    rfl

/-! ## Ticks refine the step -/

/-- A script does to an actor what it does to its body. -/
theorem body_act (v : Viewport) (script : Script) (a : Actor) :
    (a.act v script).body = a.body.act v script := by
  have hruns : script.runsAfter a.hasRun = true ↔
      a.body.hasRun = false ∨ script.isEndless = true := by
    rw [Script.runsAfter, Bool.or_eq_true, Bool.not_eq_true']
    rfl
  unfold Actor.act Body.act
  by_cases h : script.runsAfter a.hasRun = true
  · rw [if_pos h, if_pos (hruns.1 h)]
    rfl
  · rw [if_neg h, if_neg (mt hruns.2 h)]

/-- The scripts change the bodies of a cast as they do on their own. -/
theorem bodies_actAll (v : Viewport) (sprites : List Sprite) (c : Cast) :
    (fun id => ((actAll v sprites c).get? id).map Actor.body) =
      actBodies v sprites fun id => (c.get? id).map Actor.body := by
  unfold actAll actBodies
  induction sprites generalizing c with
  | nil => rfl
  | cons s rest ih =>
    rw [List.foldl_cons, List.foldl_cons, ih]
    congr 1
    funext id
    rw [Cast.get?_modify]
    split
    · rw [Option.map_map, Option.map_map]
      congr 1
      funext a
      exact body_act v s.script a
    · rfl

/-- When the scripts run, the state of the ticks goes through their part of a step. -/
theorem tickState_acted (r : Run) : r.acted.tickState = r.tickState.act r.playback.viewport :=
  TickState.ext rfl (bodies_actAll _ _ _) rfl rfl

/-- A look at sprites that are on the stage leaves the bodies as they are. -/
theorem bodies_sync {p : Playback} {sprites : List Sprite}
    (h : ∀ id, id ∈ p.cast.ids ↔ id ∈ sprites.map (·.id)) (id : SpriteId) :
    ((p.sync sprites).cast.get? id).map Actor.body = (p.cast.get? id).map Actor.body := by
  apply Playback.sync_cases
    (P := fun q => (q.cast.get? id).map Actor.body = (p.cast.get? id).map Actor.body)
  · intro _
    rfl
  · intro _
    rw [Playback.get?_noticed_of_ids h]
  · intro session schedule _
    show (((p.noticed sprites).cast.clearBubbles).get? id).map Actor.body = _
    rw [Cast.get?_clearBubbles, Playback.get?_noticed_of_ids h, Option.map_map]
    rfl

/-- A look at the program is nothing to the ticks. -/
theorem Staged.tickState_sync (h : Staged r) : r.sync.tickState = r.tickState := by
  have halike := Playback.alike_sync r.playback r.program.sprites
  refine TickState.ext rfl ?_ halike.swapLocked halike.lastSwap
  funext id
  exact bodies_sync h.mem_ids_iff id

/-- A swap exchanges the scripts of the two sprites. -/
theorem Staged.tickState_swap (h : Staged r) (session : Token) (a b : SpriteId) :
    (r.swap session a b).tickState = r.tickState.exchange r.playback.clock a b := by
  have halike := Playback.alike_sync (r.announced session a b) (r.program.swapScripts a b).sprites
  rw [swap_eq]
  refine TickState.ext rfl ?_ halike.swapLocked halike.lastSwap
  funext id
  refine bodies_sync (p := r.announced session a b) ?_ id
  intro id
  rw [Program.ids_swapScripts]
  exact h.mem_ids_iff id

/-- **A tick is the pure step.** -/
theorem Staged.tickState_tick (h : Staged r) (session : Token) :
    (r.tick session).tickState =
      r.tickState.step r.playback.settings r.playback.viewport r.playback.clock := by
  -- the cast lists the positions by ids, the state lists them by sprites
  have hpair : firstClosePair? r.acted.playback.cast.positions r.playback.settings.swapDistance =
      firstClosePair? r.acted.tickState.places r.playback.settings.swapDistance := by
    refine (firstClosePair?_of_perm h.acted.perm_places ?_ _).symm
    rw [Cast.positions_keys]
    exact Cast.ascending _ |>.keys_nodup
  have hlocked : (r.tickState.act r.playback.viewport).locked = r.playback.swapLocked := rfl
  rw [tick_eq, TickState.step, hpair, tickState_acted, hlocked]
  split
  · exact tickState_acted r
  · cases firstClosePair? (r.tickState.act r.playback.viewport).places
        r.playback.settings.swapDistance with
    | none => exact tickState_acted r
    | some pair =>
      show (r.acted.swap session pair.1 pair.2).tickState = _
      rw [h.acted.tickState_swap, tickState_acted]
      rfl

end Run

end SpriteStage
