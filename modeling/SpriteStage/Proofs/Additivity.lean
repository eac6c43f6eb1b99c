import SpriteStage.Proofs.Agreement
import SpriteStage.Proofs.Ids

/-!
# Time passes in any portions

Letting time pass in two portions comes to the same as in one (`advance_advance`). At the cut the
program is looked at once more, and nothing is seen to have changed: whatever a drain does to the
program, a swap looks at it again at once (`UpToDate.firedBy`). That needs a program that agrees
with itself, as one without a NaN does.
-/

namespace SpriteStage

/-! ## Programs that agree with themselves -/

/-- Swapping scripts brings no NaN into a program. -/
theorem Program.noNaN_swapScripts {p : Program} (h : NoNaN p.sprites) (a b : SpriteId) :
    NoNaN (p.swapScripts a b).sprites := by
  have hscript : ∀ {sprites : List Sprite} {id : SpriteId} {script : Script},
      NoNaN sprites → (∀ x ∈ script.flatMap (·.instruction.numbers), x.isNaN = false) →
      NoNaN (withScript id script sprites) := by
    intro sprites id script hsprites hscript
    refine forall_mem_withScript (fun s hs => ?_) hsprites
    rw [Sprite.numbers, List.forall_mem_cons, List.forall_mem_cons] at hs ⊢
    exact ⟨hs.1, hs.2.1, hscript⟩
  have hold : ∀ {id : SpriteId} {script : Script}, p.script? id = some script →
      ∀ x ∈ script.flatMap (·.instruction.numbers), x.isNaN = false := by
    intro id script hid x hx
    obtain ⟨s, hs, -, rfl⟩ := exists_of_script? hid
    exact h s hs x (List.mem_cons_of_mem _ (List.mem_cons_of_mem _ hx))
  unfold swapScripts
  split
  · exact h
  · split
    · rename_i left right hleft hright
      exact hscript (hscript h (hold hright)) (hold hleft)
    · exact h

/-- Swapping scripts leaves a program in agreement with itself. -/
theorem Program.spritesAgree_swapScripts {p : Program}
    (h : spritesAgree p.sprites p.sprites = true) (a b : SpriteId) :
    spritesAgree (p.swapScripts a b).sprites (p.swapScripts a b).sprites = true :=
  spritesAgree_self_iff_noNaN.2 (noNaN_swapScripts (spritesAgree_self_iff_noNaN.1 h) a b)

/-- After a look at sprites that agree with themselves, what was seen agrees with them. -/
theorem Playback.spritesAgree_seen_sync {sprites : List Sprite}
    (h : spritesAgree sprites sprites = true) (p : Playback) :
    spritesAgree (p.sync sprites).seen sprites = true := by
  apply sync_cases (P := fun q => spritesAgree q.seen sprites = true)
  · intro hagree
    exact hagree
  · intro _
    exact h
  · intro session schedule _
    exact h

namespace Run

/-! ## Nothing new to see -/

/-- The program agrees with itself and with what was last seen of it. -/
structure UpToDate (r : Run) : Prop where
  seen : spritesAgree r.playback.seen r.program.sprites = true
  self : spritesAgree r.program.sprites r.program.sprites = true

/-- A look at sprites that agree with themselves leaves a run up to date. -/
theorem upToDate_sync {r : Run} (h : spritesAgree r.program.sprites r.program.sprites = true) :
    UpToDate r.sync := ⟨Playback.spritesAgree_seen_sync h r.playback, h⟩

/-- Another look at a program that has been seen changes nothing. -/
theorem UpToDate.sync_eq {r : Run} (h : UpToDate r) : r.sync = r := by
  unfold Run.sync
  rw [Playback.sync_of_agree h.seen]

/-- A tick leaves a run up to date, for a swap looks at the program. -/
theorem UpToDate.tick {r : Run} (h : UpToDate r) (session : Token) :
    UpToDate (r.tick session) := by
  apply tick_cases
  · exact ⟨h.seen, h.self⟩
  · -- the program is seen at once as the swap leaves it
    intro a b
    have hself := Program.spritesAgree_swapScripts h.self a b
    exact ⟨Playback.spritesAgree_seen_sync hself _, hself⟩

/-- After a firing the program has been seen as it is. -/
theorem UpToDate.firedBy {r : Run} (h : UpToDate r) (fired : Fired TimedEvent)
    (left : Queue TimedEvent) : UpToDate (r.firedBy fired left) := by
  have htaken : UpToDate (r.taken fired left) := ⟨h.seen, h.self⟩
  apply firedBy_cases
  · exact htaken
  · exact htaken.tick _
  · exact ⟨h.seen, h.self⟩
  · intro sprite bubble
    exact ⟨h.seen, h.self⟩

theorem UpToDate.drain {r : Run} (h : UpToDate r) (target : Duration) :
    UpToDate (drain target r) := forall_drain (fun _ fired left hm _ => hm.firedBy fired left) h

/-! ## Two drains in one -/

/-- The run at another time on its clock. -/
def atTime (r : Run) (t : Duration) : Run := { r with playback := { r.playback with clock := t } }

/-- Time passes by a look at the program, a drain and a move of the clock. -/
theorem advance_eq (r : Run) (dt : Duration) :
    r.advance dt = (drain (r.playback.clock + dt) r.sync).atTime (r.playback.clock + dt) := rfl

/-- What fires sets the clock itself, so that where the clock stands before does not matter. -/
theorem atTime_drain_atTime (target t u : Duration) (r : Run) :
    (drain target (r.atTime t)).atTime u = (drain target r).atTime u := by
  cases h : r.playback.queue.popDue? target with
  | none => rw [drain_of_none h, drain_of_none (r := r.atTime t) h]; rfl
  | some popped =>
    obtain ⟨fired, left⟩ := popped
    rw [drain_of_some h, drain_of_some (r := r.atTime t) h]
    rfl

/-- A drain that is cut short goes on as if it had not been. -/
theorem drain_drain {t u : Duration} (hle : t ≤ u) (r : Run) : drain u (drain t r) = drain u r := by
  -- what fires by the earlier target is also what fires first by the later one
  induction r using drain_induction t with
  | hdone r h => rw [drain_of_none h]
  | hfire r fired left h ih =>
    rw [drain_of_some h, ih, ← drain_of_some (Queue.popDue?_of_le h hle)]

/-- **Advancing is additive.** Two portions of time, one after the other, lead to the same run as
the two together, whatever is pending, as long as the program agrees with itself. -/
theorem advance_advance (r : Run) (h : spritesAgree r.program.sprites r.program.sprites = true)
    (a b : Duration) : (r.advance a).advance b = r.advance (a + b) := by
  -- at the cut there is nothing new to see
  have hcut : ((drain (r.playback.clock + a) r.sync).atTime (r.playback.clock + a)).sync =
      (drain (r.playback.clock + a) r.sync).atTime (r.playback.clock + a) := by
    have hseen := (upToDate_sync h).drain (r.playback.clock + a)
    exact UpToDate.sync_eq ⟨hseen.seen, hseen.self⟩
  have hle : r.playback.clock + a ≤ r.playback.clock + (a + b) := by
    rw [← Duration.add_assoc]
    exact Duration.le_add_right _ _
  rw [advance_eq r a, advance_eq _ b, hcut]
  show (drain (r.playback.clock + a + b) _).atTime (r.playback.clock + a + b) = _
  rw [Duration.add_assoc, atTime_drain_atTime, drain_drain hle, ← advance_eq]

/-- Two portions of time on the program of two sprites that meet, cut between their swap and the
next tick. -/
theorem advance_advance_encounter :
    let r := (fresh {} 7 .encounter).play
    spritesAgree r.program.sprites r.program.sprites = true ∧
      (r.advance (.ofMillis 700)).advance (.ofMillis 300) =
        r.advance (.ofMillis 700 + .ofMillis 300) := by
  have h : spritesAgree Program.encounter.sprites Program.encounter.sprites = true := by decide
  exact ⟨h, advance_advance _ h _ _⟩

end Run

end SpriteStage
