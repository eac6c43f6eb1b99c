import SpriteStage.Proofs.Meetings

/-!
# Exchanged scripts

After an exchange the script of an id is the script that the other id of the pair had before
(`Program.script?_swapScripts`): the scripts change places along the transposition of the two ids,
and nothing else does. So exchanges obey the laws of transpositions, and an edit of a script may
come before the exchange or after it (`Program.swapScripts_setScript`). All of it is collected in
`Program.swap_is_exact`.
-/

namespace SpriteStage

namespace Program

variable {p : Program}

/-! ## Scripts after an exchange -/

/-- Nothing is exchanged with a sprite that is not there, nor with the sprite itself. -/
theorem swapScripts_eq_self {a b : SpriteId}
    (h : a = b ∨ a ∉ p.sprites.map (·.id) ∨ b ∉ p.sprites.map (·.id)) : p.swapScripts a b = p := by
  unfold swapScripts
  split
  · rfl
  · rename_i hne
    rcases h with h | h | h
    · exact absurd h hne
    · rw [script?_eq_none_iff.2 h]
    · rw [script?_eq_none_iff.2 h]
      split
      · rename_i hright
        cases hright
      · rfl

/-- An exchange changes nothing but scripts. -/
theorem bare_swapScripts (p : Program) (a b : SpriteId) : (p.swapScripts a b).bare = p.bare := by
  unfold swapScripts
  split
  · rfl
  · split
    · rw [bare_setScript, bare_setScript]
    · rfl

/-- **An exchange is a transposition.** The script of an id is the one of the other id. -/
theorem script?_swapScripts {a b : SpriteId} (ha : a ∈ p.sprites.map (·.id))
    (hb : b ∈ p.sprites.map (·.id)) (k : SpriteId) :
    (p.swapScripts a b).script? k = p.script? (Equiv.swap a b k) := by
  obtain ⟨left, hleft⟩ := exists_script?_of_mem ha
  obtain ⟨right, hright⟩ := exists_script?_of_mem hb
  unfold swapScripts
  split
  · rename_i hab
    rw [hab, Equiv.swap_self, Equiv.refl_apply]
  · rename_i hne
    simp only [hleft, hright, script?_setScript, Equiv.swap_apply_def]
    by_cases hkb : k = b
    · have hka : ¬ k = a := fun hka => hne (hka.symm.trans hkb)
      rw [if_pos hkb, if_neg (Ne.symm hne), Option.map_some, if_neg hka, if_pos hkb, hleft]
    · rw [if_neg hkb]
      by_cases hka : k = a
      · rw [if_pos hka, if_pos hka, hright, Option.map_some]
      · rw [if_neg hka, if_neg hka, if_neg hkb]

/-! ## The laws of transpositions -/

theorem nodup_swapScripts (hids : (p.sprites.map (·.id)).Nodup) (a b : SpriteId) :
    ((p.swapScripts a b).sprites.map (·.id)).Nodup := by
  rw [ids_swapScripts]
  exact hids

/-- It does not matter which of the two sprites is named first. -/
theorem swapScripts_comm (hids : (p.sprites.map (·.id)).Nodup) (a b : SpriteId) :
    p.swapScripts a b = p.swapScripts b a := by
  by_cases hboth : a ∈ p.sprites.map (·.id) ∧ b ∈ p.sprites.map (·.id)
  · obtain ⟨ha, hb⟩ := hboth
    refine eq_of_bare (nodup_swapScripts hids a b) ?_ fun k => ?_
    · rw [bare_swapScripts, bare_swapScripts]
    · rw [script?_swapScripts ha hb, script?_swapScripts hb ha, Equiv.swap_comm]
  · rw [not_and_or] at hboth
    rw [swapScripts_eq_self (Or.inr hboth), swapScripts_eq_self (Or.inr hboth.symm)]

/-- A second exchange undoes the first one. -/
theorem swapScripts_swapScripts (hids : (p.sprites.map (·.id)).Nodup) (a b : SpriteId) :
    (p.swapScripts a b).swapScripts a b = p := by
  by_cases hboth : a ∈ p.sprites.map (·.id) ∧ b ∈ p.sprites.map (·.id)
  · obtain ⟨ha, hb⟩ := hboth
    have ha' := ha
    have hb' := hb
    rw [← ids_swapScripts p a b] at ha' hb'
    refine eq_of_bare (nodup_swapScripts (nodup_swapScripts hids a b) a b) ?_ fun k => ?_
    · rw [bare_swapScripts, bare_swapScripts]
    · rw [script?_swapScripts ha' hb', script?_swapScripts ha hb, Equiv.swap_apply_self]
  · rw [not_and_or] at hboth
    rw [swapScripts_eq_self (Or.inr hboth), swapScripts_eq_self (Or.inr hboth)]

/-- Exchanges of disjoint pairs may come in any order. -/
theorem swapScripts_comm_of_disjoint (hids : (p.sprites.map (·.id)).Nodup) {a b c d : SpriteId}
    (hac : a ≠ c) (had : a ≠ d) (hbc : b ≠ c) (hbd : b ≠ d) :
    (p.swapScripts a b).swapScripts c d = (p.swapScripts c d).swapScripts a b := by
  have hfirst := ids_swapScripts p a b
  have hsecond := ids_swapScripts p c d
  by_cases hab : a ∈ p.sprites.map (·.id) ∧ b ∈ p.sprites.map (·.id)
  · by_cases hcd : c ∈ p.sprites.map (·.id) ∧ d ∈ p.sprites.map (·.id)
    · refine eq_of_bare (nodup_swapScripts (nodup_swapScripts hids a b) c d) ?_ fun k => ?_
      · simp only [bare_swapScripts]
      · rw [script?_swapScripts (hfirst ▸ hcd.1) (hfirst ▸ hcd.2), script?_swapScripts hab.1 hab.2,
          script?_swapScripts (hsecond ▸ hab.1) (hsecond ▸ hab.2), script?_swapScripts hcd.1 hcd.2]
        simp only [Equiv.swap_apply_def]
        grind
    · rw [not_and_or] at hcd
      rw [swapScripts_eq_self (a := c) (b := d) (Or.inr hcd)]
      exact swapScripts_eq_self (Or.inr (hfirst ▸ hcd))
  · rw [not_and_or] at hab
    rw [swapScripts_eq_self (a := a) (b := b) (Or.inr hab)]
    exact (swapScripts_eq_self (Or.inr (hsecond ▸ hab))).symm

/-- The scripts of the sprites are those of their ids. -/
theorem scripts_eq_map_ids (hids : (p.sprites.map (·.id)).Nodup) :
    p.sprites.map (·.script) = (p.sprites.map (·.id)).map fun id => (p.script? id).getD [] := by
  rw [List.map_map]
  apply List.map_congr_left
  intro s hs
  rw [Function.comp, script?_of_mem hids hs, Option.getD_some]

theorem swap_mem_iff {ids : List SpriteId} {a b : SpriteId} (ha : a ∈ ids) (hb : b ∈ ids)
    (k : SpriteId) : Equiv.swap a b k ∈ ids ↔ k ∈ ids := by
  rw [Equiv.swap_apply_def]
  split
  · rename_i hk
    simp only [hk, ha, hb]
  · split
    · rename_i hk
      simp only [hk, ha, hb]
    · rfl

/-- No script is lost and none is there twice. -/
theorem scripts_swapScripts_perm (hids : (p.sprites.map (·.id)).Nodup) (a b : SpriteId) :
    ((p.swapScripts a b).sprites.map (·.script)).Perm (p.sprites.map (·.script)) := by
  by_cases hboth : a ∈ p.sprites.map (·.id) ∧ b ∈ p.sprites.map (·.id)
  · obtain ⟨ha, hb⟩ := hboth
    have hperm : ((p.sprites.map (·.id)).map (Equiv.swap a b)).Perm (p.sprites.map (·.id)) := by
      rw [List.perm_ext_iff_of_nodup (hids.map (Equiv.swap a b).injective) hids]
      intro k
      rw [List.mem_map]
      constructor
      · rintro ⟨x, hx, rfl⟩
        exact (swap_mem_iff ha hb x).2 hx
      · intro hk
        exact ⟨Equiv.swap a b k, (swap_mem_iff ha hb k).2 hk, Equiv.swap_apply_self a b k⟩
    have hmap := hperm.map fun id => (p.script? id).getD []
    rw [List.map_map] at hmap
    rw [scripts_eq_map_ids (nodup_swapScripts hids a b), scripts_eq_map_ids hids, ids_swapScripts]
    simp only [script?_swapScripts ha hb]
    exact hmap
  · rw [not_and_or] at hboth
    rw [swapScripts_eq_self (Or.inr hboth)]

/-! ## Edits before and after an exchange -/

/-- A script that is set after the exchange may be set before it, on the other sprite. -/
theorem swapScripts_setScript (hids : (p.sprites.map (·.id)).Nodup) {a b : SpriteId}
    (ha : a ∈ p.sprites.map (·.id)) (hb : b ∈ p.sprites.map (·.id)) (script : Script) :
    (p.swapScripts a b).setScript a script = (p.setScript b script).swapScripts a b := by
  have hbare : ((p.swapScripts a b).setScript a script).bare =
      ((p.setScript b script).swapScripts a b).bare := by
    rw [bare_setScript, bare_swapScripts, bare_swapScripts, bare_setScript]
  have hsame : (p.setScript b script).sprites.map (·.id) = p.sprites.map (·.id) :=
    ids_withScript b script p.sprites
  have hids' : (((p.setScript b script).swapScripts a b).sprites.map (·.id)).Nodup := by
    rw [ids_swapScripts, hsame]
    exact hids
  refine (eq_of_bare hids' hbare.symm fun k => ?_).symm
  rw [script?_swapScripts (hsame ▸ ha) (hsame ▸ hb), script?_setScript, script?_setScript,
    script?_swapScripts ha hb, script?_swapScripts ha hb, Equiv.swap_apply_left]
  simp only [Equiv.swap_apply_eq_iff, Equiv.swap_apply_right]

section

variable (hids : (p.sprites.map (·.id)).Nodup) {a b : SpriteId} (ha : a ∈ p.sprites.map (·.id))
  (hb : b ∈ p.sprites.map (·.id))

include hids ha hb

/-- A block is added to the script that has come to the sprite, as it would have been before. -/
theorem addBlock?_swapScripts (i : Instruction) (candidates : List BlockId) :
    (p.swapScripts a b).addBlock? a i candidates =
      (p.addBlock? b i candidates).map fun r => (r.1, r.2.swapScripts a b) := by
  rw [addBlock?, addBlock?, script?_swapScripts ha hb, Equiv.swap_apply_left]
  cases p.script? b with
  | none => rfl
  | some script =>
    rw [Option.bind_eq_bind, Option.bind_some, Option.bind_some]
    cases candidates.find? fun id => !Script.has script id with
    | none => rfl
    | some id => exact congrArg (fun q => some (id, q)) (swapScripts_setScript hids ha hb _)

/-- A block is patched in the script that has come to the sprite. -/
theorem updateBlock?_swapScripts (block : BlockId) (patch : Patch) :
    (p.swapScripts a b).updateBlock? a block patch =
      (p.updateBlock? b block patch).map (·.swapScripts a b) := by
  rw [updateBlock?, updateBlock?, script?_swapScripts ha hb, Equiv.swap_apply_left]
  cases p.script? b with
  | none => rfl
  | some script =>
    rw [Option.bind_eq_bind, Option.bind_some, Option.bind_some]
    split
    · rw [Option.map_some, swapScripts_setScript hids ha hb]
    · rfl

/-- A block is removed from the script that has come to the sprite. -/
theorem removeBlock?_swapScripts (block : BlockId) :
    (p.swapScripts a b).removeBlock? a block =
      (p.removeBlock? b block).map (·.swapScripts a b) := by
  rw [removeBlock?, removeBlock?, script?_swapScripts ha hb, Equiv.swap_apply_left]
  cases p.script? b with
  | none => rfl
  | some script =>
    rw [Option.bind_eq_bind, Option.bind_some, Option.bind_some]
    split
    · rw [Option.map_some, swapScripts_setScript hids ha hb]
    · rfl

end

/-- **An exchange is exact.** In a program whose sprites have ids of their own, two sprites exchange
their scripts and nothing else of the program changes; with a sprite that is not there, or with
itself, nothing is exchanged. So the order of the two makes no difference, a second exchange undoes
the first one, exchanges of other pairs may come before or after, and the scripts are the same ones
all together. A block may be added, patched or removed after the exchange or, on the other sprite,
before it, with the same answer. -/
theorem swap_is_exact (hids : (p.sprites.map (·.id)).Nodup) :
    (∀ s ∈ p.sprites, ∀ t ∈ p.sprites, s.id ≠ t.id →
      p.swapScripts s.id t.id = { p with sprites := p.sprites.map (s.exchanged t) }) ∧
    (∀ a b, a = b ∨ a ∉ p.sprites.map (·.id) ∨ b ∉ p.sprites.map (·.id) →
      p.swapScripts a b = p) ∧
    (∀ a b, p.swapScripts a b = p.swapScripts b a) ∧
    (∀ a b, (p.swapScripts a b).swapScripts a b = p) ∧
    (∀ a b c d, a ≠ c → a ≠ d → b ≠ c → b ≠ d →
      (p.swapScripts a b).swapScripts c d = (p.swapScripts c d).swapScripts a b) ∧
    (∀ a b, ((p.swapScripts a b).sprites.map (·.script)).Perm (p.sprites.map (·.script))) ∧
    ∀ a ∈ p.sprites.map (·.id), ∀ b ∈ p.sprites.map (·.id),
      (∀ i candidates, (p.swapScripts a b).addBlock? a i candidates =
        (p.addBlock? b i candidates).map fun r => (r.1, r.2.swapScripts a b)) ∧
      (∀ block patch, (p.swapScripts a b).updateBlock? a block patch =
        (p.updateBlock? b block patch).map (·.swapScripts a b)) ∧
      ∀ block, (p.swapScripts a b).removeBlock? a block =
        (p.removeBlock? b block).map (·.swapScripts a b) := by
  refine ⟨fun s hs t ht hne => swapScripts_eq hids hs ht hne, fun a b h => swapScripts_eq_self h,
    swapScripts_comm hids, swapScripts_swapScripts hids, ?_, scripts_swapScripts_perm hids, ?_⟩
  · intro a b c d hac had hbc hbd
    exact swapScripts_comm_of_disjoint hids hac had hbc hbd
  · intro a ha b hb
    exact ⟨addBlock?_swapScripts hids ha hb, updateBlock?_swapScripts hids ha hb,
      removeBlock?_swapScripts hids ha hb⟩

/-- Four sprites, two of which have blocks of the same id. -/
theorem swap_is_exact_quartet :
    let sprite (n : UInt32) (blocks : Script) : Sprite := ⟨⟨n⟩, "Cat", 50.0, 50.0, blocks⟩
    let first : Script := [⟨⟨7⟩, .move (some 10.0)⟩, ⟨⟨8⟩, .forever⟩]
    let second : Script := [⟨⟨7⟩, .hide⟩]
    let p : Program := ⟨{}, [sprite 1 first, sprite 2 second, sprite 3 [], sprite 4 second]⟩
    (p.sprites.map (·.id)).Nodup ∧
      p.swapScripts ⟨1⟩ ⟨2⟩ =
        ⟨{}, [sprite 1 second, sprite 2 first, sprite 3 [], sprite 4 second]⟩ ∧
      p.swapScripts ⟨1⟩ ⟨5⟩ = p ∧ p.swapScripts ⟨1⟩ ⟨2⟩ = p.swapScripts ⟨2⟩ ⟨1⟩ ∧
      (p.swapScripts ⟨1⟩ ⟨2⟩).swapScripts ⟨1⟩ ⟨2⟩ = p ∧
      (p.swapScripts ⟨1⟩ ⟨2⟩).swapScripts ⟨3⟩ ⟨4⟩ = (p.swapScripts ⟨3⟩ ⟨4⟩).swapScripts ⟨1⟩ ⟨2⟩ ∧
      ((p.swapScripts ⟨1⟩ ⟨2⟩).sprites.map (·.script)).Perm [first, second, [], second] ∧
      (p.swapScripts ⟨1⟩ ⟨2⟩).addBlock? ⟨1⟩ .reveal [⟨7⟩, ⟨8⟩] =
        (p.addBlock? ⟨2⟩ .reveal [⟨7⟩, ⟨8⟩]).map fun r => (r.1, r.2.swapScripts ⟨1⟩ ⟨2⟩) := by
  intro sprite first second p
  have hids : (p.sprites.map (·.id)).Nodup := by decide
  obtain ⟨hexchange, hself, hcomm, htwice, hdisjoint, hperm, hedits⟩ := swap_is_exact hids
  have hswap := hexchange (sprite 1 first) (by decide) (sprite 2 second) (by decide) (by decide)
  exact ⟨hids, hswap, hself ⟨1⟩ ⟨5⟩ (by decide), hcomm _ _, htwice _ _,
    hdisjoint ⟨1⟩ ⟨2⟩ ⟨3⟩ ⟨4⟩ (by decide) (by decide) (by decide) (by decide), hperm _ _,
    (hedits ⟨1⟩ (by decide) ⟨2⟩ (by decide)).1 _ _⟩

end Program

end SpriteStage
