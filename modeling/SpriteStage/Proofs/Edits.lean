import SpriteStage.Block.Format
import SpriteStage.Proofs.Scripts

/-!
# Edits keep to their target

An edit of a block changes the script of one sprite, and of that only the block it is about
(`Program.edits_keep_to_target`). Every such edit is a change of the script of its target
(`Edit.onScript`, `Program.script?_edited`), so edits with different targets do not see each other.
A patched instruction is known by its tag and its fields (`Patch.patches_iff`).
-/

namespace SpriteStage

/-! ## Patched instructions -/

/-- The fields that hold numbers. -/
inductive NumberField where
  | steps
  | degrees
  | x
  | y
  | seconds
  | amount
  | value

/-- The number in a field of the instruction, if it carries that field. -/
def Instruction.number? : Instruction → NumberField → Option (Option Float)
  | .move steps, .steps => some steps
  | .turn degrees, .degrees => some degrees
  | .goto x _, .x => some x
  | .goto _ y, .y => some y
  | .bubble _ _ seconds, .seconds => some seconds
  | .changeColor amount, .amount => some amount
  | .changeSizeBy amount, .amount => some amount
  | .setColor value, .value => some value
  | .setSizeTo value, .value => some value
  | _, _ => none

/-- The message of the instruction, if it carries one. -/
def Instruction.message? : Instruction → Option (Option String)
  | .bubble _ message _ => some message
  | _ => none

/-- The instruction with a tag and the values of its fields. -/
def Instruction.ofFields? (tag : String) (number : NumberField → Option Float)
    (message : Option String) : Option Instruction :=
  match tag with
  | "move" => some (.move (number .steps))
  | "turn" => some (.turn (number .degrees))
  | "goto" => some (.goto (number .x) (number .y))
  | "say" => some (.bubble .say message (number .seconds))
  | "think" => some (.bubble .think message (number .seconds))
  | "show" => some .reveal
  | "hide" => some .hide
  | "changeColor" => some (.changeColor (number .amount))
  | "setColor" => some (.setColor (number .value))
  | "clearEffects" => some .clearEffects
  | "changeSizeBy" => some (.changeSizeBy (number .amount))
  | "setSizeTo" => some (.setSizeTo (number .value))
  | "repeat" => some .forever
  | _ => none

/-- An instruction is made of its own tag and fields. -/
theorem Instruction.ofFields?_self (i : Instruction) :
    ofFields? i.tag (fun f => (i.number? f).join) i.message?.join = some i := by
  cases i with
  | bubble kind message seconds => cases kind <;> rfl
  | _ => rfl

/-- An instruction is known by its tag and its fields. -/
theorem Instruction.eq_of_fields {i j : Instruction} (htag : i.tag = j.tag)
    (hnumbers : ∀ f, i.number? f = j.number? f) (hmessage : i.message? = j.message?) : i = j := by
  apply Option.some.inj
  rw [← i.ofFields?_self, ← j.ofFields?_self, htag, hmessage]
  simp only [hnumbers]

namespace Patch

/-- The number that the patch has for a field. -/
def number (p : Patch) : NumberField → Option Float
  | .steps => p.steps
  | .degrees => p.degrees
  | .x => p.x
  | .y => p.y
  | .seconds => p.seconds
  | .amount => p.amount
  | .value => p.value

/-- The second instruction is the first one with the values of the patch: it is of the same kind,
and each field that it carries has the value of the patch, if there is one, and otherwise the old
one. -/
structure Patches (p : Patch) (i j : Instruction) : Prop where
  tag : j.tag = i.tag
  numbers : ∀ f, j.number? f = (i.number? f).map fun old => (p.number f).or old
  message : j.message? = i.message?.map fun old => p.message.or old

/-- Patching makes an instruction that has the values of the patch. -/
theorem patches_patched (p : Patch) (i : Instruction) : p.Patches i (i.patched p) := by
  refine ⟨?_, ?_, ?_⟩
  · cases i with
    | bubble kind message seconds => cases kind <;> rfl
    | _ => rfl
  · intro f
    cases i <;> cases f <;> rfl
  · cases i <;> rfl

/-- There is one instruction only that has them. -/
theorem patches_iff {p : Patch} {i j : Instruction} : p.Patches i j ↔ j = i.patched p := by
  refine ⟨fun h => ?_, fun h => h ▸ p.patches_patched i⟩
  have hpatched := p.patches_patched i
  apply Instruction.eq_of_fields
  · rw [h.tag, hpatched.tag]
  · intro f
    rw [h.numbers, hpatched.numbers]
  · rw [h.message, hpatched.message]

end Patch

/-! ## Changed scripts -/

namespace Script

/-- A script has a block if its id is among the ids. -/
theorem has_eq_true_iff {script : Script} {id : BlockId} :
    script.has id = true ↔ id ∈ script.map (·.id) := by
  simp [has]

/-- Where no block has the id, a patch changes nothing. -/
theorem patch_of_not_mem {script : Script} {id : BlockId} (patch : Patch)
    (h : id ∉ script.map (·.id)) : Script.patch id patch script = script := by
  induction script with
  | nil => rfl
  | cons b rest ih =>
    rw [List.map_cons, List.mem_cons, not_or] at h
    rw [Script.patch, if_neg (Ne.symm h.1), ih h.2]

/-- Where no block has the id, a removal changes nothing. -/
theorem remove_of_not_mem {script : Script} {id : BlockId} (h : id ∉ script.map (·.id)) :
    Script.remove script id = script := by
  unfold Script.remove
  rw [List.filter_eq_self]
  intro b hb
  have hne : b.id ≠ id := fun hid => h (List.mem_map.2 ⟨b, hb, hid⟩)
  simpa using hne

variable {before after : Script} {b : Block}

/-- Where ids come once, those before a block and after it are others. -/
theorem not_mem_of_nodup (h : ((before ++ b :: after).map (·.id)).Nodup) :
    b.id ∉ before.map (·.id) ∧ b.id ∉ after.map (·.id) := by
  rw [List.map_append, List.map_cons] at h
  obtain ⟨-, hcons, hdisjoint⟩ := List.nodup_append.1 h
  exact ⟨fun hmem => hdisjoint _ hmem _ List.mem_cons_self rfl, (List.nodup_cons.1 hcons).1⟩

/-- A block is patched where it stands. -/
theorem patch_append (patch : Patch) (h : ((before ++ b :: after).map (·.id)).Nodup) :
    Script.patch b.id patch (before ++ b :: after) =
      before ++ ⟨b.id, b.instruction.patched patch⟩ :: after := by
  obtain ⟨hbefore, -⟩ := not_mem_of_nodup h
  clear h
  induction before with
  | nil => rw [List.nil_append, Script.patch, if_pos rfl, List.nil_append]
  | cons c rest ih =>
    rw [List.map_cons, List.mem_cons, not_or] at hbefore
    rw [List.cons_append, Script.patch, if_neg (Ne.symm hbefore.1), ih hbefore.2, List.cons_append]

/-- A block is taken out and the others stay in their order. -/
theorem remove_append (h : ((before ++ b :: after).map (·.id)).Nodup) :
    Script.remove (before ++ b :: after) b.id = before ++ after := by
  obtain ⟨hbefore, hafter⟩ := not_mem_of_nodup h
  calc Script.remove (before ++ b :: after) b.id
      = Script.remove before b.id ++ Script.remove (b :: after) b.id := List.filter_append ..
    _ = before ++ Script.remove (b :: after) b.id := by rw [remove_of_not_mem hbefore]
    _ = before ++ Script.remove after b.id := by simp [Script.remove]
    _ = before ++ after := by rw [remove_of_not_mem hafter]

end Script

namespace Program

/-! ## Edits of one script -/

/-- The sprite whose script an edit changes, if it changes one. -/
def Edit.target? : Edit → Option SpriteId
  | .addBlock sprite _ _ => some sprite
  | .updateBlock sprite _ _ => some sprite
  | .removeBlock sprite _ => some sprite
  | .addSprite _ => none
  | .swapScripts _ _ => none

/-- What the edit makes of the script of its target. -/
def Edit.onScript : Edit → Script → Script
  | .addBlock _ i candidates, script =>
    match candidates.find? fun id => !Script.has script id with
    | some id => script ++ [⟨id, i⟩]
    | none => script
  | .updateBlock _ block patch, script => Script.patch block patch script
  | .removeBlock _ block, script => Script.remove script block
  | .addSprite _, script => script
  | .swapScripts _ _, script => script

variable {p : Program} {e : Edit} {a : SpriteId}

/-- **An edit is a change of one script.** Where it cannot be made, the script stays the same. -/
theorem edited_of_script? (htarget : e.target? = some a) {script : Script}
    (hscript : p.script? a = some script) : p.edited e = p.setScript a (e.onScript script) := by
  cases e with
  | addBlock sprite i candidates =>
    cases htarget
    rw [edited, addBlock?, Edit.onScript, hscript, Option.bind_eq_bind, Option.bind_some]
    cases hfree : candidates.find? fun id => !Script.has script id with
    | none => exact (setScript_self hscript).symm
    | some id => rfl
  | updateBlock sprite block patch =>
    cases htarget
    rw [edited, updateBlock?, Edit.onScript, hscript, Option.bind_eq_bind, Option.bind_some]
    split
    · rfl
    · rename_i hhas
      rw [Script.patch_of_not_mem patch (mt Script.has_eq_true_iff.2 hhas), setScript_self hscript]
      rfl
  | removeBlock sprite block =>
    cases htarget
    rw [edited, removeBlock?, Edit.onScript, hscript, Option.bind_eq_bind, Option.bind_some]
    split
    · rfl
    · rename_i hhas
      rw [Script.remove_of_not_mem (mt Script.has_eq_true_iff.2 hhas), setScript_self hscript]
      rfl
  | addSprite name => cases htarget
  | swapScripts c d => cases htarget

/-- Without its target an edit is not made. -/
theorem edited_of_script?_eq_none (htarget : e.target? = some a) (hscript : p.script? a = none) :
    p.edited e = p := by
  cases e with
  | addBlock sprite i candidates =>
    cases htarget
    rw [edited, addBlock?, hscript]
    rfl
  | updateBlock sprite block patch =>
    cases htarget
    rw [edited, updateBlock?, hscript]
    rfl
  | removeBlock sprite block =>
    cases htarget
    rw [edited, removeBlock?, hscript]
    rfl
  | addSprite name => cases htarget
  | swapScripts c d => cases htarget

/-- An edit of a block changes nothing but scripts. -/
theorem bare_edited (p : Program) (htarget : e.target? = some a) : (p.edited e).bare = p.bare := by
  cases hscript : p.script? a with
  | none => rw [edited_of_script?_eq_none htarget hscript]
  | some script => rw [edited_of_script? htarget hscript, bare_setScript]

/-- An edit is seen in the script of its target only. -/
theorem script?_edited (p : Program) (htarget : e.target? = some a) (k : SpriteId) :
    (p.edited e).script? k = if k = a then (p.script? k).map e.onScript else p.script? k := by
  cases hscript : p.script? a with
  | none =>
    rw [edited_of_script?_eq_none htarget hscript]
    split
    · rename_i hk
      rw [hk, hscript, Option.map_none]
    · rfl
  | some script =>
    rw [edited_of_script? htarget hscript, script?_setScript, hscript]
    split
    · rename_i hk
      rw [hk, hscript, Option.map_some, Option.map_some]
    · rfl

/-- Edits of different sprites do not see each other. -/
theorem edited_comm (hids : (p.sprites.map (·.id)).Nodup) {f : Edit} {b : SpriteId}
    (htarget : e.target? = some a) (htarget' : f.target? = some b) (hne : a ≠ b) :
    (p.edited e).edited f = (p.edited f).edited e := by
  have hbare : ((p.edited e).edited f).bare = ((p.edited f).edited e).bare := by
    rw [bare_edited _ htarget', bare_edited _ htarget, bare_edited _ htarget,
      bare_edited _ htarget']
  have hids' : (((p.edited e).edited f).sprites.map (·.id)).Nodup := by
    have hsame : ((p.edited e).edited f).bare = p.bare := by
      rw [bare_edited _ htarget', bare_edited _ htarget]
    rw [ids_eq_of_bare hsame]
    exact hids
  refine eq_of_bare hids' hbare fun k => ?_
  rw [script?_edited _ htarget', script?_edited _ htarget, script?_edited _ htarget,
    script?_edited _ htarget']
  by_cases hka : k = a
  · have hkb : ¬ k = b := fun hkb => hne (hka.symm.trans hkb)
    rw [if_neg hkb, if_neg hkb]
  · rw [if_neg hka, if_neg hka]

/-! ## What each edit does -/

/-- A block is added at the end, if there is an unused id for it among the candidates. -/
theorem addBlock?_of_append (hids : (p.sprites.map (·.id)).Nodup) {left right : List Sprite}
    {s : Sprite} (hsprites : p.sprites = left ++ s :: right) (i : Instruction)
    {candidates : List BlockId} (hfree : ∃ id ∈ candidates, id ∉ s.script.map (·.id)) :
    ∃ id ∈ candidates, id ∉ s.script.map (·.id) ∧
      p.addBlock? s.id i candidates = some (id, { p with
        sprites := left ++ { s with script := s.script ++ [⟨id, i⟩] } :: right }) := by
  have hscript : p.script? s.id = some s.script := script?_of_mem hids (by simp [hsprites])
  obtain ⟨id, hid⟩ : ∃ id, candidates.find? (fun id => !Script.has s.script id) = some id := by
    rw [← Option.isSome_iff_exists, List.find?_isSome]
    obtain ⟨id, hmem, hnew⟩ := hfree
    exact ⟨id, hmem, Script.not_has_iff.2 hnew⟩
  have hnew := List.find?_some hid
  refine ⟨id, List.mem_of_find?_eq_some hid, Script.not_has_iff.1 hnew, ?_⟩
  rw [addBlock?, hscript, Option.bind_eq_bind, Option.bind_some, hid, Option.bind_eq_bind,
    Option.bind_some, setScript_of_append hids hsprites]
  rfl

/-- A block is patched where it stands. -/
theorem updateBlock?_of_append (h : p.Unambiguous) {left right : List Sprite} {s : Sprite}
    (hsprites : p.sprites = left ++ s :: right) {before after : Script} {b : Block}
    (hblocks : s.script = before ++ b :: after) (patch : Patch) :
    p.updateBlock? s.id b.id patch = some { p with
      sprites := left ++
        { s with script := before ++ ⟨b.id, b.instruction.patched patch⟩ :: after } :: right } := by
  have hs : s ∈ p.sprites := by simp [hsprites]
  have hnodup := h.blocks s hs
  have hhas : Script.has s.script b.id = true := Script.has_eq_true_iff.2 (by simp [hblocks])
  rw [hblocks] at hnodup
  rw [updateBlock?, script?_of_mem h.sprites hs, Option.bind_eq_bind, Option.bind_some, if_pos hhas,
    setScript_of_append h.sprites hsprites, hblocks, Script.patch_append patch hnodup]

/-- A block is removed and the others stay in their order. -/
theorem removeBlock?_of_append (h : p.Unambiguous) {left right : List Sprite} {s : Sprite}
    (hsprites : p.sprites = left ++ s :: right) {before after : Script} {b : Block}
    (hblocks : s.script = before ++ b :: after) :
    p.removeBlock? s.id b.id = some { p with
      sprites := left ++ { s with script := before ++ after } :: right } := by
  have hs : s ∈ p.sprites := by simp [hsprites]
  have hnodup := h.blocks s hs
  have hhas : Script.has s.script b.id = true := Script.has_eq_true_iff.2 (by simp [hblocks])
  rw [hblocks] at hnodup
  rw [removeBlock?, script?_of_mem h.sprites hs, Option.bind_eq_bind, Option.bind_some, if_pos hhas,
    setScript_of_append h.sprites hsprites, hblocks, Script.remove_append hnodup]

/-- A block that no script of that id has is neither patched nor removed. -/
theorem edits_eq_none {sprite : SpriteId} {block : BlockId}
    (hunknown : ∀ s ∈ p.sprites, s.id = sprite → block ∉ s.script.map (·.id)) (patch : Patch) :
    p.updateBlock? sprite block patch = none ∧ p.removeBlock? sprite block = none := by
  cases hscript : p.script? sprite with
  | none =>
    rw [updateBlock?, removeBlock?, hscript]
    exact ⟨rfl, rfl⟩
  | some script =>
    obtain ⟨s, hs, hid, rfl⟩ := exists_of_script? hscript
    have hhas := mt Script.has_eq_true_iff.1 (hunknown s hs hid)
    rw [updateBlock?, removeBlock?, hscript, Option.bind_eq_bind, Option.bind_some,
      Option.bind_some, if_neg hhas, if_neg hhas]
    exact ⟨rfl, rfl⟩

/-- **Edits keep to their target.** In a program whose ids name one thing each, a block is added at
the end of a sprite's script, under an unused id; a patched block stays where it was, with its id
and the one instruction of the same kind whose fields have the values of the patch; a removed block
is taken out of its script; and all else of the program stays as it is. An edit of an unknown sprite
or block is not made. Edits of different sprites may come in any order, each with its own source of
ids. -/
theorem edits_keep_to_target (h : p.Unambiguous) :
    (∀ left s right, p.sprites = left ++ s :: right →
      (∀ i candidates, (∃ id ∈ candidates, id ∉ s.script.map (·.id)) →
        ∃ id ∈ candidates, id ∉ s.script.map (·.id) ∧
          p.addBlock? s.id i candidates = some (id, { p with
            sprites := left ++ { s with script := s.script ++ [⟨id, i⟩] } :: right })) ∧
      ∀ before b after, s.script = before ++ b :: after →
        (∀ patch : Patch, ∃ j, (∀ k, patch.Patches b.instruction k ↔ k = j) ∧
          p.updateBlock? s.id b.id patch = some { p with
            sprites := left ++ { s with script := before ++ ⟨b.id, j⟩ :: after } :: right }) ∧
        p.removeBlock? s.id b.id = some { p with
          sprites := left ++ { s with script := before ++ after } :: right }) ∧
    (∀ sprite, sprite ∉ p.sprites.map (·.id) → ∀ i candidates,
      p.addBlock? sprite i candidates = none ∧ p.edited (.addBlock sprite i candidates) = p) ∧
    (∀ sprite block, (∀ s ∈ p.sprites, s.id = sprite → block ∉ s.script.map (·.id)) → ∀ patch,
      (p.updateBlock? sprite block patch = none ∧
        p.edited (.updateBlock sprite block patch) = p) ∧
      p.removeBlock? sprite block = none ∧ p.edited (.removeBlock sprite block) = p) ∧
    ∀ e f a b, Edit.target? e = some a → Edit.target? f = some b → a ≠ b →
      (p.edited e).script? b = p.script? b ∧ (p.edited e).edited f = (p.edited f).edited e := by
  refine ⟨fun left s right hsprites => ⟨?_, fun before b after hblocks => ⟨?_, ?_⟩⟩, ?_, ?_, ?_⟩
  · intro i candidates hfree
    exact addBlock?_of_append h.sprites hsprites i hfree
  · intro patch
    exact ⟨_, fun k => Patch.patches_iff, updateBlock?_of_append h hsprites hblocks patch⟩
  · exact removeBlock?_of_append h hsprites hblocks
  · intro sprite hunknown i candidates
    have hnone := script?_eq_none_iff.2 hunknown
    refine ⟨?_, edited_of_script?_eq_none rfl hnone⟩
    rw [addBlock?, hnone]
    rfl
  · intro sprite block hunknown patch
    obtain ⟨hupdate, hremove⟩ := edits_eq_none hunknown patch
    refine ⟨⟨hupdate, ?_⟩, hremove, ?_⟩
    · rw [edited, hupdate, Option.getD_none]
    · rw [edited, hremove, Option.getD_none]
  · intro e f a b htarget htarget' hne
    refine ⟨?_, edited_comm h.sprites htarget htarget' hne⟩
    rw [script?_edited p htarget, if_neg hne.symm]

/-- Two sprites, each with a block of the same id. -/
theorem edits_keep_to_target_pair :
    let home (blocks : Script) : Sprite := ⟨⟨1⟩, "Cat 1", 50.0, 50.0, blocks⟩
    let other : Sprite := ⟨⟨2⟩, "Cat 2", 220.0, 80.0, [⟨⟨7⟩, .forever⟩]⟩
    let p : Program := ⟨{}, [home [⟨⟨7⟩, .move (some 10.0)⟩, ⟨⟨8⟩, .hide⟩], other]⟩
    let patch : Patch := { steps := some 25.0, seconds := some 1.0 }
    p.Unambiguous ∧
      (∃ id ∈ [⟨7⟩, ⟨9⟩], id ∉ [⟨7⟩, ⟨8⟩] ∧ p.addBlock? ⟨1⟩ .reveal [⟨7⟩, ⟨9⟩] = some (id,
        ⟨{}, [home [⟨⟨7⟩, .move (some 10.0)⟩, ⟨⟨8⟩, .hide⟩, ⟨id, .reveal⟩], other]⟩)) ∧
      (∃ j, patch.Patches (.move (some 10.0)) j ∧ p.updateBlock? ⟨1⟩ ⟨7⟩ patch = some
        ⟨{}, [home [⟨⟨7⟩, j⟩, ⟨⟨8⟩, .hide⟩], other]⟩) ∧
      p.removeBlock? ⟨1⟩ ⟨7⟩ = some ⟨{}, [home [⟨⟨8⟩, .hide⟩], other]⟩ ∧
      p.edited (.addBlock ⟨3⟩ .reveal [⟨7⟩]) = p ∧ p.edited (.removeBlock ⟨2⟩ ⟨8⟩) = p ∧
      (p.edited (.removeBlock ⟨1⟩ ⟨7⟩)).edited (.updateBlock ⟨2⟩ ⟨7⟩ patch) =
        (p.edited (.updateBlock ⟨2⟩ ⟨7⟩ patch)).edited (.removeBlock ⟨1⟩ ⟨7⟩) := by
  intro home other p patch
  have h : p.Unambiguous := check_eq_ok_iff.1 (by decide)
  obtain ⟨hknown, hsprite, hblock, hcomm⟩ := edits_keep_to_target h
  obtain ⟨hadd, hscript⟩ := hknown [] _ [other] rfl
  obtain ⟨hupdate, hremove⟩ := hscript [] ⟨⟨7⟩, .move (some 10.0)⟩ [⟨⟨8⟩, .hide⟩] rfl
  obtain ⟨j, hpatches, hj⟩ := hupdate patch
  exact ⟨h, hadd .reveal [⟨7⟩, ⟨9⟩] (by decide), ⟨j, (hpatches j).2 rfl, hj⟩, hremove,
    (hsprite ⟨3⟩ (by decide) .reveal [⟨7⟩]).2, (hblock ⟨2⟩ ⟨8⟩ (by decide) patch).2.2,
    (hcomm _ _ ⟨1⟩ ⟨2⟩ rfl rfl (by decide)).2⟩

end Program

end SpriteStage
