import SpriteStage.Hues
import SpriteStage.Stage

/-!
# The sprites on the stage

An `Actor` is what a sprite is like while a program plays, and a `Cast` holds one actor for each
sprite id, in ascending order. `Cast.reconcile` brings a cast in line with a list of sprites:
newcomers start from home, the departed are dropped, all others stay as they are.

`Actor.act` runs a whole script, as a tick does. `Actor.click` carries out one instruction, as a
click on a block does; there a color change draws a random hue.
-/

namespace SpriteStage

/-- A sprite at play. -/
structure Actor where
  position : Position
  /-- The degrees turned so far, never wrapped. -/
  angle : Float
  looks : Looks
  /-- The script has run in this session. -/
  hasRun : Bool
  bubble : Option Bubble
  deriving DecidableEq

/-- What there is to see of a sprite. -/
structure View where
  id : SpriteId
  position : Position
  angle : Float
  looks : Looks
  bubble : Option Bubble
  deriving DecidableEq

namespace Actor

/-- A sprite at home. -/
def home (s : Sprite) : Actor := ⟨⟨s.x, s.y⟩, 0.0, {}, false, none⟩

/-- What there is to see of an actor. -/
def view (a : Actor) (id : SpriteId) : View := ⟨id, a.position, a.angle, a.looks, a.bubble⟩

/-- Runs a script if it is to run on this tick. -/
def act (v : Viewport) (script : Script) (a : Actor) : Actor :=
  if script.runsAfter a.hasRun then
    let pass := script.run a.position a.looks
    { a with
      position := v.clamp pass.position
      angle := a.angle + pass.turned
      looks := pass.looks
      hasRun := true }
  else a

/-- Carries out one instruction at once. A color change takes a hue from the supply, and setting a
color sets it to zero. Only instructions that move or turn touch the position and the angle. -/
def click (v : Viewport) (i : Instruction) (a : Actor) (hues : Hues) : Actor × Hues :=
  match i with
  | .changeColor _ =>
    let (hue, hues) := hues.draw
    ({ a with looks := { a.looks with color := hue } }, hues)
  | .setColor _ => ({ a with looks := { a.looks with color := 0.0 } }, hues)
  | i =>
    let pass := i.act ⟨a.position, 0.0, a.looks⟩
    if i.isMotion then
      ({ a with
        position := v.clamp pass.position
        angle := a.angle + pass.turned
        looks := pass.looks }, hues)
    else ({ a with looks := pass.looks }, hues)

end Actor

/-! ## Casts -/

/-- Ids in ascending order, each once. -/
def Ascending (entries : List (SpriteId × α)) : Prop :=
  (entries.map (·.1)).Pairwise (· < ·)

/-- The actors by ascending id. -/
structure Cast where
  actors : List (SpriteId × Actor)
  ascending : Ascending actors

/-- The entries with one more, unless its id is there already. -/
def insertActor (id : SpriteId) (a : Actor) : List (SpriteId × Actor) → List (SpriteId × Actor)
  | [] => [(id, a)]
  | (k, b) :: rest =>
    if id < k then (id, a) :: (k, b) :: rest
    else if id = k then (k, b) :: rest
    else (k, b) :: insertActor id a rest

theorem SpriteId.lt_trans {a b c : SpriteId} (h : a < b) (h' : b < c) : a < c :=
  UInt32.lt_trans h h'

theorem SpriteId.lt_of_not_lt_of_ne {a b : SpriteId} (h : ¬ a < b) (hne : a ≠ b) : b < a := by
  obtain ⟨a⟩ := a
  obtain ⟨b⟩ := b
  have h : ¬ a < b := h
  have hne : a ≠ b := fun he => hne (by rw [he])
  show b < a
  rw [UInt32.lt_iff_toNat_lt] at h ⊢
  have := mt UInt32.toNat_inj.1 hne
  omega

/-- An actor put into a list adds its id and takes none away. -/
theorem mem_keys_insertActor {id k : SpriteId} {a : Actor} {actors : List (SpriteId × Actor)} :
    k ∈ (insertActor id a actors).map (·.1) ↔ k = id ∨ k ∈ actors.map (·.1) := by
  induction actors with
  | nil => simp [insertActor]
  | cons entry rest ih =>
    obtain ⟨m, b⟩ := entry
    unfold insertActor
    split
    · simp only [List.map_cons, List.mem_cons]
    · split
      · rename_i h
        subst h
        simp only [List.map_cons, List.mem_cons]; grind
      · simp only [List.map_cons, List.mem_cons, ih]; grind

/-- Putting an actor in keeps the ids ascending. -/
theorem Ascending.insertActor {actors : List (SpriteId × Actor)} (h : Ascending actors)
    (id : SpriteId) (a : Actor) : Ascending (insertActor id a actors) := by
  induction actors with
  | nil => simp [SpriteStage.insertActor, Ascending]
  | cons entry rest ih =>
    obtain ⟨m, b⟩ := entry
    obtain ⟨hm, hrest⟩ := List.pairwise_cons.1 h
    unfold SpriteStage.insertActor
    split
    · rename_i hlt
      refine List.pairwise_cons.2 ⟨fun k hk => ?_, h⟩
      rcases List.mem_cons.1 hk with rfl | hk
      · exact hlt
      · exact SpriteId.lt_trans hlt (hm k hk)
    · split
      · exact h
      · rename_i hlt hne
        refine List.pairwise_cons.2 ⟨fun k hk => ?_, ih hrest⟩
        rcases mem_keys_insertActor.1 hk with rfl | hk
        · exact SpriteId.lt_of_not_lt_of_ne hlt hne
        · exact hm k hk

/-- So does leaving actors out. -/
theorem Ascending.filter {actors : List (SpriteId × Actor)} (h : Ascending actors)
    (keep : SpriteId × Actor → Bool) : Ascending (actors.filter keep) :=
  List.Pairwise.sublist (List.filter_sublist.map _) h

/-- So does changing the actors under their ids. -/
theorem Ascending.mapActors {actors : List (SpriteId × Actor)} (h : Ascending actors)
    (f : SpriteId → Actor → Actor) :
    Ascending (actors.map fun entry => (entry.1, f entry.1 entry.2)) := by
  unfold Ascending
  rw [List.map_map]
  exact h

namespace Cast

/-- No actors. -/
def empty : Cast := ⟨[], List.Pairwise.nil⟩

/-- The ids of the actors, ascending. -/
def ids (c : Cast) : List SpriteId := c.actors.map (·.1)

/-- The actor of an id. -/
def get? (c : Cast) (id : SpriteId) : Option Actor := c.actors.lookup id

/-- The cast with every actor changed. -/
def map (c : Cast) (f : SpriteId → Actor → Actor) : Cast :=
  ⟨c.actors.map fun entry => (entry.1, f entry.1 entry.2), c.ascending.mapActors f⟩

/-- The cast with the actor of an id changed, if there is one. -/
def modify (c : Cast) (id : SpriteId) (f : Actor → Actor) : Cast :=
  c.map fun k a => if k = id then f a else a

/-- The cast with one more actor, unless its id is there already. -/
def insertNew (c : Cast) (id : SpriteId) (a : Actor) : Cast :=
  ⟨insertActor id a c.actors, c.ascending.insertActor id a⟩

/-- The ids of actors without a sprite in the list, ascending. -/
def departed (c : Cast) (sprites : List Sprite) : List SpriteId :=
  c.ids.filter fun id => !sprites.any (·.id = id)

/-- The cast for a list of sprites. -/
def reconcile (c : Cast) (sprites : List Sprite) : Cast :=
  let stayed : Cast :=
    ⟨c.actors.filter fun entry => sprites.any (·.id = entry.1), c.ascending.filter _⟩
  sprites.foldl (fun c s => c.insertNew s.id (.home s)) stayed

/-- The positions of all actors. -/
def positions (c : Cast) : List (SpriteId × Position) := c.actors.map fun e => (e.1, e.2.position)

/-- Gives an actor a bubble or takes it away. -/
def setBubble (c : Cast) (id : SpriteId) (bubble : Option Bubble) : Cast :=
  c.modify id fun a => { a with bubble := bubble }

/-- Takes all bubbles away. -/
def clearBubbles (c : Cast) : Cast := c.map fun _ a => { a with bubble := none }

/-- Lets every script run again. -/
def resetRuns (c : Cast) : Cast := c.map fun _ a => { a with hasRun := false }

/-- What there is to see of a sprite. -/
def view? (c : Cast) (id : SpriteId) : Option View := (c.get? id).map (·.view id)

end Cast

end SpriteStage
