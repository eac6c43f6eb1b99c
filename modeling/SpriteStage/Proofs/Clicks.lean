import SpriteStage.Proofs.Steps

/-!
# Clicks on single blocks

A click carries out one instruction at once. On the sprite it does what a script of this one block
does on a tick, except that only instructions that move or turn touch the place and the angle
(`Actor.looks_click`, `Actor.motion_click`, `Actor.still_click`), and that the two instructions for
the color have a way of their own. Of the playback it changes nothing beside the sprite but the
stamp that is remembered and the supply of hues (`Playback.click_eq_ite`). The main statement,
`Run.click_agrees_with_tick`, sets a click beside a tick of a run.
-/

namespace SpriteStage

/-- The instruction changes or sets the color, which a click does in its own way. -/
def Instruction.recolors : Instruction → Bool
  | .changeColor _ | .setColor _ => true
  | _ => false

/-! ## The sprite -/

namespace Actor

variable {i : Instruction} (v : Viewport) (a : Actor) (hues : Hues) (block : BlockId)

/-- A sprite looks after a click as after a script of the one block, and no hue is drawn. -/
theorem looks_click (h : i.recolors = false) :
    (a.click v i hues).1.looks = (Script.run [⟨block, i⟩] a.position a.looks).looks ∧
      (a.click v i hues).2 = hues := by
  cases i with
  | changeColor amount => simp [Instruction.recolors] at h
  | setColor value => simp [Instruction.recolors] at h
  | _ => exact ⟨rfl, rfl⟩

/-- A click on a block that moves or turns takes the sprite where the script takes it, brought back
onto the stage. -/
theorem motion_click (h : i.isMotion = true) :
    (a.click v i hues).1.position =
        v.clamp (Script.run [⟨block, i⟩] a.position a.looks).position ∧
      (a.click v i hues).1.angle =
        a.angle + (Script.run [⟨block, i⟩] a.position a.looks).turned := by
  cases i with
  | move steps => exact ⟨rfl, rfl⟩
  | turn degrees => exact ⟨rfl, rfl⟩
  | goto x y => exact ⟨rfl, rfl⟩
  | _ => simp [Instruction.isMotion] at h

/-- A click on any other block leaves the sprite where it is, even off the stage. -/
theorem still_click (h : i.isMotion = false) :
    (a.click v i hues).1.position = a.position ∧ (a.click v i hues).1.angle = a.angle := by
  cases i with
  | move steps => simp [Instruction.isMotion] at h
  | turn degrees => simp [Instruction.isMotion] at h
  | goto x y => simp [Instruction.isMotion] at h
  | _ => exact ⟨rfl, rfl⟩

/-- No click lets a script run again, and none changes what a sprite says. -/
theorem unmoved_click (i : Instruction) :
    (a.click v i hues).1.hasRun = a.hasRun ∧ (a.click v i hues).1.bubble = a.bubble := by
  cases i <;> exact ⟨rfl, rfl⟩

/-- Only blocks that move or turn change the position of a pass. -/
theorem position_run_of_still (h : i.isMotion = false) (position : Position) (looks : Looks) :
    (Script.run [⟨block, i⟩] position looks).position = position := by
  cases i with
  | move steps => simp [Instruction.isMotion] at h
  | turn degrees => simp [Instruction.isMotion] at h
  | goto x y => simp [Instruction.isMotion] at h
  | _ => rfl

/-- **A click and a tick.** A sprite that is on the stage already is left by a click as by a tick
that runs a script of the one block, but for an angle that the block does not touch. -/
theorem click_agrees_act (hcolor : i.recolors = false) (hstage : v.clamp a.position = a.position)
    (hruns : Script.runsAfter [⟨block, i⟩] a.hasRun = true) :
    (a.click v i hues).1.position = (a.act v [⟨block, i⟩]).position ∧
      (a.click v i hues).1.looks = (a.act v [⟨block, i⟩]).looks ∧
      (i.isMotion = true → (a.click v i hues).1.angle = (a.act v [⟨block, i⟩]).angle) := by
  unfold act
  rw [if_pos hruns]
  refine ⟨?_, (looks_click v a hues block hcolor).1, fun h => (motion_click v a hues block h).2⟩
  cases hmotion : i.isMotion with
  | true => exact (motion_click v a hues block hmotion).1
  | false =>
    show _ = v.clamp (Script.run [⟨block, i⟩] a.position a.looks).position
    rw [position_run_of_still block hmotion, hstage]
    exact (still_click v a hues hmotion).1

end Actor

/-! ## The playback -/

namespace Playback

/-- The playback after a click has been carried out, whatever click came before it. -/
def clicked (p : Playback) (c : Click) : Playback :=
  { p with
    lastStamp := some c.stamp
    cast := p.cast.modify c.sprite fun a => (a.click p.viewport c.instruction p.hues).1
    hues := ((p.cast.get? c.sprite).map fun a => (a.click p.viewport c.instruction p.hues).2).getD
      p.hues }

/-- **What becomes of a click.** It is dropped if it has the stamp of the one before it, and carried
out otherwise. -/
theorem click_eq_ite (p : Playback) (c : Click) :
    p.click c = if p.lastStamp = some c.stamp then p else p.clicked c := by
  unfold click clicked
  split
  · rfl
  · dsimp only
    cases hactor : p.cast.get? c.sprite with
    | none =>
      rw [Cast.modify_of_none hactor]
      rfl
    | some actor =>
      -- the actor that is changed is the one that was looked up
      have hcast :
          (p.cast.modify c.sprite fun _ => (actor.click p.viewport c.instruction p.hues).1) =
            p.cast.modify c.sprite fun a => (a.click p.viewport c.instruction p.hues).1 := by
        apply Cast.modify_congr
        intro a ha
        rw [Option.some.inj (hactor.symm.trans ha)]
      dsimp only
      rw [hcast]
      rfl

/-- The actor of an id after a click has been carried out. -/
theorem get?_clicked (p : Playback) (c : Click) (id : SpriteId) :
    (p.clicked c).cast.get? id =
      if id = c.sprite then
        (p.cast.get? id).map fun a => (a.click p.viewport c.instruction p.hues).1
      else p.cast.get? id := Cast.get?_modify _ _ _ _

end Playback

/-! ## Ticks of a run -/

/-- The scripts of others leave a sprite as it is. -/
theorem actBodies_of_not_mem {sprites : List Sprite} {id : SpriteId}
    (h : id ∉ sprites.map (·.id)) (v : Viewport) (bodies : SpriteId → Option Body) :
    actBodies v sprites bodies id = bodies id := by
  unfold actBodies
  induction sprites generalizing bodies with
  | nil => rfl
  | cons s rest ih =>
    rw [List.map_cons, List.mem_cons, not_or] at h
    rw [List.foldl_cons, ih h.2, if_neg h.1]

/-- A sprite with an id of its own has one turn on a tick, with its own script. -/
theorem actBodies_of_mem {sprites : List Sprite} (hids : (sprites.map (·.id)).Nodup) {s : Sprite}
    (hs : s ∈ sprites) (v : Viewport) (bodies : SpriteId → Option Body) :
    actBodies v sprites bodies s.id = (bodies s.id).map (Body.act v s.script) := by
  induction sprites generalizing bodies with
  | nil => exact absurd hs List.not_mem_nil
  | cons t rest ih =>
    obtain ⟨ht, hrest⟩ := List.nodup_cons.1 hids
    rcases List.mem_cons.1 hs with rfl | hs
    · show actBodies v rest _ s.id = _
      rw [actBodies_of_not_mem ht]
      exact if_pos rfl
    · -- another sprite has its turn first
      have hne : s.id ≠ t.id := by
        intro he
        exact ht (List.mem_map.2 ⟨s, hs, he⟩)
      show actBodies v rest _ s.id = _
      rw [ih hrest hs]
      exact congrArg (Option.map _) (if_neg hne)

/-- A swap does not touch the bodies, so a tick changes them as the scripts do. -/
theorem TickState.bodies_step (settings : PlaybackSettings) (v : Viewport) (now : Duration)
    (t : TickState) : (t.step settings v now).bodies = (t.act v).bodies := by
  unfold TickState.step
  dsimp only
  split
  · rfl
  · split <;> rfl

namespace Run

variable {r : Run}

/-- What a tick makes of a sprite, whether others swap or not. -/
theorem Staged.body_tick (h : Staged r) (session : Token) {s : Sprite}
    (hs : s ∈ r.program.sprites) :
    ((r.tick session).playback.cast.get? s.id).map Actor.body =
      (r.playback.cast.get? s.id).map fun a => (a.act r.playback.viewport s.script).body := by
  have hstep := congrFun (congrArg TickState.bodies (h.tickState_tick session)) s.id
  rw [TickState.bodies_step] at hstep
  refine hstep.trans ?_
  show actBodies _ r.program.sprites _ s.id = _
  rw [actBodies_of_mem h.unique hs]
  show ((r.playback.cast.get? s.id).map Actor.body).map _ = _
  rw [Option.map_map]
  congr 1
  funext a
  exact (body_act r.playback.viewport s.script a).symm

/-- **A click agrees with a tick.**

* A click on a block that leaves the color alone changes the looks as a script of this one block
  does. If the block moves or turns, the sprite goes where the script takes it, brought back onto
  the stage, and turns by as much; otherwise it stays exactly where and as it is. No hue is drawn.
  So a sprite that is on the stage already is left as by its turn on a tick with this script: at the
  same place, with the same looks and, if the block moves or turns, at the same angle.
* A click on a change of the color changes nothing else and takes the next hue; one on a block that
  sets the color sets it to zero.
* In a run, a sprite that is on the stage already is left by a click on the one block of its script
  as by a tick on which this script runs, whoever swaps on that tick.
* Whatever is clicked, the playback stays as it is but for the stamp, the sprite and the hues: no
  other sprite changes, and this one may run and speaks as before. A click on a sprite that is not
  there changes nothing but the stamp. -/
theorem click_agrees_with_tick :
    (∀ (v : Viewport) (a : Actor) (hues : Hues) (i : Instruction) (block : BlockId),
      i.recolors = false →
        (a.click v i hues).1.looks = (Script.run [⟨block, i⟩] a.position a.looks).looks ∧
        (i.isMotion = true →
          (a.click v i hues).1.position =
              v.clamp (Script.run [⟨block, i⟩] a.position a.looks).position ∧
            (a.click v i hues).1.angle =
              a.angle + (Script.run [⟨block, i⟩] a.position a.looks).turned) ∧
        (i.isMotion = false →
          (a.click v i hues).1.position = a.position ∧ (a.click v i hues).1.angle = a.angle) ∧
        (a.click v i hues).2 = hues ∧
        (v.clamp a.position = a.position → Script.runsAfter [⟨block, i⟩] a.hasRun = true →
          (a.click v i hues).1.position = (a.act v [⟨block, i⟩]).position ∧
            (a.click v i hues).1.looks = (a.act v [⟨block, i⟩]).looks ∧
            (i.isMotion = true → (a.click v i hues).1.angle = (a.act v [⟨block, i⟩]).angle))) ∧
    (∀ (v : Viewport) (a : Actor) (hues : Hues) (number : Option Float),
      a.click v (.changeColor number) hues =
          ({ a with looks := { a.looks with color := hues.draw.1 } }, hues.draw.2) ∧
        a.click v (.setColor number) hues =
          ({ a with looks := { a.looks with color := 0.0 } }, hues)) ∧
    (∀ (r : Run) (session : Token) (s : Sprite) (a : Actor) (block : BlockId) (i : Instruction)
        (stamp : UInt64), Staged r → s ∈ r.program.sprites → s.script = [⟨block, i⟩] →
      r.playback.cast.get? s.id = some a → s.script.runsAfter a.hasRun = true →
      i.recolors = false → r.playback.viewport.clamp a.position = a.position →
      r.playback.lastStamp ≠ some stamp →
        ∃ clicked ticked,
          (r.playback.click ⟨s.id, i, stamp⟩).cast.get? s.id = some clicked ∧
          (r.tick session).playback.cast.get? s.id = some ticked ∧
          clicked.position = ticked.position ∧ clicked.looks = ticked.looks ∧
          (i.isMotion = true → clicked.angle = ticked.angle)) ∧
    ∀ (p : Playback) (c : Click), ∃ cast hues,
      p.click c = { p with lastStamp := some c.stamp, cast := cast, hues := hues } ∧
      (∀ id, id ≠ c.sprite → cast.get? id = p.cast.get? id) ∧
      (∀ a, p.cast.get? c.sprite = some a → ∃ a', cast.get? c.sprite = some a' ∧
        a'.hasRun = a.hasRun ∧ a'.bubble = a.bubble ∧
        (p.lastStamp ≠ some c.stamp → (a', hues) = a.click p.viewport c.instruction p.hues)) ∧
      (p.cast.get? c.sprite = none → cast = p.cast ∧ hues = p.hues) := by
  refine ⟨?_, fun _ _ _ _ => ⟨rfl, rfl⟩, ?_, ?_⟩
  · intro v a hues i block hcolor
    obtain ⟨hlooks, hhues⟩ := a.looks_click v hues block hcolor
    exact ⟨hlooks, a.motion_click v hues block, a.still_click v hues, hhues,
      a.click_agrees_act v hues block hcolor⟩
  · intro r session s a block i stamp hstaged hs hscript ha hruns hcolor hstage hnew
    have hclicked : (r.playback.click ⟨s.id, i, stamp⟩).cast.get? s.id =
        some (a.click r.playback.viewport i r.playback.hues).1 := by
      rw [Playback.click_eq_ite, if_neg hnew, Playback.get?_clicked, if_pos rfl, ha]
      rfl
    have hbody := hstaged.body_tick session hs
    rw [ha, hscript] at hbody
    obtain ⟨ticked, hticked, hsame⟩ := Option.map_eq_some_iff.1 hbody
    obtain ⟨hposition, hangle, hlooks, -⟩ := Body.mk.inj hsame
    rw [hscript] at hruns
    obtain ⟨hposition', hlooks', hangle'⟩ :=
      a.click_agrees_act r.playback.viewport r.playback.hues block hcolor hstage hruns
    exact ⟨_, ticked, hclicked, hticked, hposition'.trans hposition.symm,
      hlooks'.trans hlooks.symm, fun h => (hangle' h).trans hangle.symm⟩
  · intro p c
    rw [Playback.click_eq_ite]
    split
    · rename_i hsame
      refine ⟨p.cast, p.hues, by rw [← hsame], fun _ _ => rfl, ?_, fun _ => ⟨rfl, rfl⟩⟩
      intro a ha
      exact ⟨a, ha, rfl, rfl, fun hnew => absurd hsame hnew⟩
    · refine ⟨_, _, rfl, ?_, ?_, ?_⟩
      · intro id hid
        rw [Cast.get?_modify, if_neg hid]
      · intro a ha
        obtain ⟨hrun, hbubble⟩ := a.unmoved_click p.viewport p.hues c.instruction
        refine ⟨(a.click p.viewport c.instruction p.hues).1, ?_, hrun, hbubble, fun _ => ?_⟩
        · rw [Cast.get?_modify, if_pos rfl, ha]
          rfl
        · rw [ha]
          rfl
      · intro hnone
        rw [Cast.modify_of_none hnone, hnone]
        exact ⟨rfl, rfl⟩

/-- A sprite whose script is one move, on a stage that has been measured. -/
theorem click_agrees_with_tick_move :
    let s : Sprite := ⟨⟨1⟩, "Cat 1", 560.0, 50.0, [⟨⟨1⟩, .move (some 50.0)⟩]⟩
    let a := Actor.home s
    let r := ((fresh {} 7 ⟨{}, [s]⟩).call (.resize ⟨600.0, 400.0⟩)).sync
    (Staged r ∧ s ∈ r.program.sprites ∧ r.playback.cast.get? s.id = some a ∧
      s.script.runsAfter a.hasRun = true ∧
      r.playback.viewport.clamp a.position = a.position ∧ r.playback.lastStamp ≠ some 1) ∧
      ∃ clicked ticked,
        (r.playback.click ⟨s.id, .move (some 50.0), 1⟩).cast.get? s.id = some clicked ∧
        (r.tick ⟨1⟩).playback.cast.get? s.id = some ticked ∧
        clicked.position = ticked.position ∧ clicked.looks = ticked.looks ∧
        clicked.angle = ticked.angle := by
  intro s a r
  have hreachable : Reachable ((fresh {} 7 ⟨{}, [s]⟩).call (.resize ⟨600.0, 400.0⟩)) :=
    (Reachable.fresh _ _ _).call _
  have hstaged : Staged r := staged_sync (invariant_follows.reachable hreachable) (by decide)
  have hs : s ∈ r.program.sprites := List.mem_singleton_self s
  have ha : r.playback.cast.get? s.id = some a := by decide
  have hstage : r.playback.viewport.clamp a.position = a.position := by decide +kernel
  have hnew : r.playback.lastStamp ≠ some 1 := by decide
  obtain ⟨-, -, htick, -⟩ := click_agrees_with_tick
  obtain ⟨clicked, ticked, hclicked, hticked, hposition, hlooks, hangle⟩ :=
    htick r ⟨1⟩ s a ⟨1⟩ (.move (some 50.0)) 1 hstaged hs rfl ha rfl rfl hstage hnew
  exact ⟨⟨hstaged, hs, ha, rfl, hstage, hnew⟩,
    clicked, ticked, hclicked, hticked, hposition, hlooks, hangle rfl⟩

end Run

end SpriteStage
