import SpriteStage.Proofs.Swaps
import SpriteStage.Studio.Reaction

/-!
# What the user points at

A user of a studio goes from gesture to gesture (`Studio.does`) and time passes in between. All the
while there is an item of the palette and a sprite under the pointers (`Studio.Pointing`), and the
cursor is on a block of the script (`Studio.OnBlock`), with one exception: a swap may put a shorter
script under the cursor, and the block is then missed until the cursor is placed anew
(`Studio.cursor_after`).
-/

namespace SpriteStage

/-! ## Scripts of the same length -/

namespace Program

theorem length_patch (id : BlockId) (patch : Patch) (script : Script) :
    (Script.patch id patch script).length = script.length := by
  induction script with
  | nil => rfl
  | cons b rest ih =>
    unfold Script.patch
    split
    · rfl
    · rw [List.length_cons, List.length_cons, ih]

/-- A new script leaves the number of sprites as it is. -/
theorem length_setScript (p : Program) (id : SpriteId) (script : Script) :
    (p.setScript id script).sprites.length = p.sprites.length := by
  have hids := congrArg List.length (ids_withScript id script p.sprites)
  rwa [List.length_map, List.length_map] at hids

/-- A new script that is as long as the old one leaves all scripts as long as they are. -/
theorem scriptLengths_withScript {id : SpriteId} {script : Script} {sprites : List Sprite}
    (h : ∀ s, sprites.find? (·.id = id) = some s → script.length = s.script.length) :
    (withScript id script sprites).map (·.script.length) = sprites.map (·.script.length) := by
  induction sprites with
  | nil => rfl
  | cons s rest ih =>
    unfold withScript
    by_cases hid : s.id = id
    · have hlength : script.length = s.script.length := h s (by simp [hid])
      rw [if_pos hid, List.map_cons, List.map_cons, hlength]
    · have hrest : ∀ t, rest.find? (·.id = id) = some t → script.length = t.script.length := by
        intro t ht
        exact h t (by rw [List.find?_cons_of_neg (by simpa using hid)]; exact ht)
      rw [if_neg hid, List.map_cons, List.map_cons, ih hrest]

/-- Patching a block leaves all scripts as long as they are. -/
theorem scriptLengths_updateBlock? {p q : Program} {sprite : SpriteId} {block : BlockId}
    {patch : Patch} (h : p.updateBlock? sprite block patch = some q) :
    q.sprites.map (·.script.length) = p.sprites.map (·.script.length) := by
  unfold updateBlock? at h
  obtain ⟨script, hscript, h⟩ := Option.bind_eq_some_iff.1 h
  split at h
  · obtain rfl := Option.some.inj h
    apply scriptLengths_withScript
    intro s hs
    rw [script?, sprite?, hs] at hscript
    rw [length_patch, ← Option.some.inj hscript]
  · simp at h

/-- No sprite goes with a block. -/
theorem length_removeBlock? {p q : Program} {sprite : SpriteId} {block : BlockId}
    (h : p.removeBlock? sprite block = some q) : q.sprites.length = p.sprites.length := by
  unfold removeBlock? at h
  obtain ⟨script, -, h⟩ := Option.bind_eq_some_iff.1 h
  split at h
  · obtain rfl := Option.some.inj h
    exact length_setScript _ _ _
  · simp at h

/-- No sprite comes with a block. -/
theorem length_addBlock? {p q : Program} {sprite : SpriteId} {i : Instruction} {ids : List BlockId}
    {id : BlockId} (h : p.addBlock? sprite i ids = some (id, q)) :
    q.sprites.length = p.sprites.length := by
  unfold addBlock? at h
  obtain ⟨script, -, h⟩ := Option.bind_eq_some_iff.1 h
  obtain ⟨id', -, h⟩ := Option.bind_eq_some_iff.1 h
  obtain ⟨-, rfl⟩ := Prod.mk.inj (Option.some.inj h)
  exact length_setScript _ _ _

end Program

namespace Studio

variable {s t : Studio}

/-! ## Gestures -/

/-- What can happen to a studio: what its user does, and that time passes. -/
inductive Gesture where
  | togglePlay
  | nextSprite
  | addSprite
  | moveCursor (steps : Int)
  | cyclePalette (steps : Int)
  | addBlock (m : Moment)
  | removeBlock
  | nudge (direction : Float)
  | clickBlock (m : Moment)
  | advance (dt : Duration)

/-- The studio after a gesture. -/
def does (s : Studio) : Gesture → Studio
  | .togglePlay => s.togglePlay
  | .nextSprite => s.nextSprite
  | .addSprite => s.addSprite
  | .moveCursor steps => s.moveCursor steps
  | .cyclePalette steps => s.cyclePalette steps
  | .addBlock m => s.addBlock m
  | .removeBlock => s.removeBlock
  | .nudge direction => s.nudge direction
  | .clickBlock m => s.clickBlock m
  | .advance dt => s.advance dt

/-- The studio after one gesture and the other. -/
def after (s : Studio) (gestures : List Gesture) : Studio := gestures.foldl does s

theorem after_concat (s : Studio) (gestures : List Gesture) (g : Gesture) :
    s.after (gestures ++ [g]) = (s.after gestures).does g := by
  rw [after, List.foldl_append]
  rfl

/-- Whatever the keys are bound to, an event is a gesture or leaves the studio as it is. -/
theorem handle_cases (s : Studio) (m : Moment) (e : Event) :
    (s.handle m e).1 = s ∨ ∃ g, (s.handle m e).1 = s.does g := by
  cases e with
  | resize => exact Or.inl rfl
  | other => exact Or.inl rfl
  | key press motion =>
    cases motion with
    | again => exact Or.inl rfl
    | release => exact Or.inl rfl
    | press =>
      unfold handle
      dsimp only
      split
      · exact Or.inl rfl
      · exact Or.inl rfl
      · rename_i change haction
        right
        obtain ⟨⟨binding, action⟩, hentry, rfl⟩ := Option.map_eq_some_iff.1 haction
        have hmem := List.mem_of_find?_eq_some hentry
        simp only [KeyBindings.actions, List.mem_cons, Prod.mk.injEq, KeyAction.edit.injEq,
          reduceCtorEq, and_false, false_or, List.not_mem_nil, or_false] at hmem
        rcases hmem with ⟨-, rfl⟩ | ⟨-, rfl⟩ | ⟨-, rfl⟩ | ⟨-, rfl⟩ | ⟨-, rfl⟩ | ⟨-, rfl⟩ |
          ⟨-, rfl⟩ | ⟨-, rfl⟩ | ⟨-, rfl⟩ | ⟨-, rfl⟩ | ⟨-, rfl⟩ | ⟨-, rfl⟩
        · exact ⟨.togglePlay, rfl⟩
        · exact ⟨.nextSprite, rfl⟩
        · exact ⟨.addSprite, rfl⟩
        · exact ⟨.moveCursor (-1), rfl⟩
        · exact ⟨.moveCursor 1, rfl⟩
        · exact ⟨.cyclePalette (-1), rfl⟩
        · exact ⟨.cyclePalette 1, rfl⟩
        · exact ⟨.addBlock m, rfl⟩
        · exact ⟨.removeBlock, rfl⟩
        · exact ⟨.nudge 1.0, rfl⟩
        · exact ⟨.nudge (-1.0), rfl⟩
        · exact ⟨.clickBlock m, rfl⟩
      · exact Or.inl rfl

/-! ## Pointers and cursor -/

/-- There is an item of the palette under its pointer, and a sprite if there are any. -/
structure Pointing (s : Studio) : Prop where
  item : s.paletteIndex < s.palette.length
  sprite : s.run.program.sprites ≠ [] → s.spriteIndex < s.run.program.sprites.length

/-- The cursor is on a block of the script, or at the start of a script without blocks. -/
def OnBlock (s : Studio) : Prop :=
  s.blockIndex < s.script.length ∨ s.script = [] ∧ s.blockIndex = 0

/-- The cursor is where it was. -/
def SameCursor (s t : Studio) : Prop := t.spriteIndex = s.spriteIndex ∧ t.blockIndex = s.blockIndex

/-- Pointers that stay where they are still point, as long as no sprite goes. -/
theorem Pointing.of_eq (h : s.Pointing) (hpalette : t.palette = s.palette)
    (hitem : t.paletteIndex = s.paletteIndex) (hsprite : t.spriteIndex = s.spriteIndex)
    (hcount : t.run.program.sprites.length = s.run.program.sprites.length) : t.Pointing where
  item := by
    rw [hpalette, hitem]
    exact h.item
  sprite := by
    intro hsome
    have hsome' : s.run.program.sprites ≠ [] := by
      rwa [← List.length_pos_iff, ← hcount, List.length_pos_iff]
    rw [hsprite, hcount]
    exact h.sprite hsome'

/-- The cursor is on a block exactly if it is not beyond the last one. -/
theorem onBlock_iff : s.OnBlock ↔ s.blockIndex ≤ s.script.length - 1 := by
  unfold OnBlock
  rw [← List.length_eq_zero_iff]
  omega

/-- At the start of a script the cursor is on a block, if there is one. -/
theorem onBlock_of_eq_zero (h : s.blockIndex = 0) : s.OnBlock := by
  rw [onBlock_iff, h]
  exact Nat.zero_le _

/-- A cursor that is on a block points at one as long as the script has any. -/
theorem OnBlock.isSome_block? (h : s.OnBlock) (hscript : s.script ≠ []) :
    s.sprite?.isSome = true ∧ s.block?.isSome = true := by
  constructor
  · cases hsprite : s.sprite? with
    | none => exact absurd (by rw [script, hsprite]; rfl) hscript
    | some sprite => rfl
  · rcases h with hlt | ⟨hnil, -⟩
    · rw [block?, List.getElem?_eq_getElem hlt]
      rfl
    · exact absurd hnil hscript

/-- A cursor that stays in a script that stays as long is on a block if it was. -/
theorem OnBlock.of_same (h : s.OnBlock) (hsame : s.SameCursor t)
    (hlength : t.script.length = s.script.length) : t.OnBlock := by
  rw [onBlock_iff] at h ⊢
  rw [hsame.2, hlength]
  exact h

/-- The script pointed at is as long as that of the sprite, and has no blocks without a sprite. -/
theorem length_script (s : Studio) :
    s.script.length = ((s.run.program.sprites.map (·.script.length))[s.spriteIndex]?).getD 0 := by
  rw [script, sprite?, List.getElem?_map]
  cases s.run.program.sprites[s.spriteIndex]? <;> rfl

/-! ## What a gesture does to them -/

/-- The pointers still point, and the cursor stays in a script that stays as long. -/
structure Keeps (s t : Studio) : Prop where
  pointing : s.Pointing → t.Pointing
  cursor : s.SameCursor t
  length : t.script.length = s.script.length

/-- The pointers still point, and the cursor is placed on a block. -/
structure Places (s t : Studio) : Prop where
  pointing : s.Pointing → t.Pointing
  onBlock : t.OnBlock

theorem Keeps.refl (s : Studio) : s.Keeps s := ⟨id, ⟨rfl, rfl⟩, rfl⟩

/-- A run in which the scripts are as long as they were keeps pointers and cursor. -/
theorem keeps_of_scriptLengths {r : Run}
    (h : r.program.sprites.map (·.script.length) = s.run.program.sprites.map (·.script.length)) :
    s.Keeps { s with run := r } where
  pointing := by
    intro hpointing
    have hcount := congrArg List.length h
    rw [List.length_map, List.length_map] at hcount
    exact hpointing.of_eq rfl rfl rfl hcount
  cursor := ⟨rfl, rfl⟩
  length := by rw [length_script, length_script, h]

/-- Playing and stopping keep the cursor and the scripts. -/
theorem keeps_togglePlay (s : Studio) : s.Keeps s.togglePlay := by
  apply keeps_of_scriptLengths
  cases !s.run.playback.isRunning with
  | false => rfl
  | true => exact congrArg (fun p : Program => p.sprites.map (·.script.length)) s.run.program_play

/-- The next sprite is entered at the first block of its script. -/
theorem keeps_or_places_nextSprite (s : Studio) : s.Keeps s.nextSprite ∨ s.Places s.nextSprite := by
  by_cases hcount : s.run.program.sprites.length = 0
  · have hsame : s.nextSprite = s := if_pos hcount
    rw [hsame]
    exact Or.inl (Keeps.refl s)
  · right
    have hnext : s.nextSprite = { s with
        spriteIndex := (s.spriteIndex + 1) % s.run.program.sprites.length, blockIndex := 0 } :=
      if_neg hcount
    rw [hnext]
    refine ⟨fun h => ⟨h.item, fun _ => ?_⟩, onBlock_of_eq_zero rfl⟩
    exact Nat.mod_lt _ (Nat.pos_of_ne_zero hcount)

/-- A new sprite is entered at the start of its script. -/
theorem places_addSprite (s : Studio) : s.Places s.addSprite := by
  refine ⟨fun h => ⟨h.item, fun _ => ?_⟩, onBlock_of_eq_zero rfl⟩
  show s.run.program.sprites.length < (s.run.program.sprites ++ [_]).length
  rw [List.length_append]
  exact Nat.lt_succ_self _

/-- A cursor that moves is placed within its script. -/
theorem places_moveCursor (s : Studio) (steps : Int) : s.Places (s.moveCursor steps) := by
  refine ⟨fun h => h.of_eq rfl rfl rfl rfl, ?_⟩
  rw [onBlock_iff]
  show (max 0 (min (s.blockIndex + steps) (s.script.length - 1 : Int))).toNat ≤ s.script.length - 1
  omega

/-- The palette has nothing to do with the cursor. -/
theorem keeps_cyclePalette (s : Studio) (steps : Int) : s.Keeps (s.cyclePalette steps) := by
  unfold cyclePalette
  split
  · exact Keeps.refl s
  · refine ⟨fun h => ⟨?_, h.sprite⟩, ⟨rfl, rfl⟩, rfl⟩
    have hlength : (0 : Int) < s.palette.length := by
      have hitem := h.item
      omega
    have hnonneg := Int.emod_nonneg (s.paletteIndex + steps) hlength.ne'
    have hlt := Int.emod_lt_of_pos (s.paletteIndex + steps) hlength
    show ((s.paletteIndex + steps) % s.palette.length).toNat < s.palette.length
    omega

/-- The cursor goes to the block that is added, if one is. -/
theorem keeps_or_places_addBlock (s : Studio) (m : Moment) :
    s.Keeps (s.addBlock m) ∨ s.Places (s.addBlock m) := by
  unfold addBlock
  split
  · dsimp only
    split
    · -- the cursor goes to the last block
      rename_i hadd
      right
      refine ⟨fun h => h.of_eq rfl rfl rfl (Program.length_addBlock? hadd), ?_⟩
      rw [onBlock_iff]
      exact Nat.le_refl _
    · exact Or.inl (keeps_of_scriptLengths rfl)
  · exact Or.inl (Keeps.refl s)

/-- After a removal the cursor is brought back into the script. -/
theorem keeps_or_places_removeBlock (s : Studio) :
    s.Keeps s.removeBlock ∨ s.Places s.removeBlock := by
  unfold removeBlock
  split
  · rename_i sprite block _ _
    have hplaces := places_moveCursor (s.withProgram
      ((s.run.program.removeBlock? sprite.id block.id).getD s.run.program)) 0
    refine Or.inr ⟨fun h => hplaces.pointing ?_, hplaces.onBlock⟩
    refine h.of_eq rfl rfl rfl ?_
    cases hremove : s.run.program.removeBlock? sprite.id block.id with
    | none => rfl
    | some q => exact Program.length_removeBlock? hremove
  · exact Or.inl (Keeps.refl s)

/-- A value key changes an instruction, and neither the cursor nor the length of the script. -/
theorem keeps_nudge (s : Studio) (direction : Float) : s.Keeps (s.nudge direction) := by
  unfold nudge
  split
  · rename_i sprite block _ _
    split
    · rename_i patch _
      apply keeps_of_scriptLengths
      cases hupdate : s.run.program.updateBlock? sprite.id block.id patch with
      | none => rfl
      | some q => exact Program.scriptLengths_updateBlock? hupdate
    · exact Keeps.refl s
  · exact Keeps.refl s

/-- A click on a block leaves the program alone. -/
theorem keeps_clickBlock (s : Studio) (m : Moment) : s.Keeps (s.clickBlock m) := by
  unfold clickBlock
  split
  · exact ⟨fun h => h.of_eq rfl rfl rfl rfl, ⟨rfl, rfl⟩, rfl⟩
  · exact Keeps.refl s

/-- What a user does keeps the cursor or places it. -/
theorem does_cases (s : Studio) (g : Gesture) :
    s.Keeps (s.does g) ∨ s.Places (s.does g) ∨ ∃ dt, g = .advance dt := by
  cases g with
  | togglePlay => exact Or.inl (keeps_togglePlay s)
  | nextSprite => exact (keeps_or_places_nextSprite s).imp_right Or.inl
  | addSprite => exact Or.inr (Or.inl (places_addSprite s))
  | moveCursor steps => exact Or.inr (Or.inl (places_moveCursor s steps))
  | cyclePalette steps => exact Or.inl (keeps_cyclePalette s steps)
  | addBlock m => exact (keeps_or_places_addBlock s m).imp_right Or.inl
  | removeBlock => exact (keeps_or_places_removeBlock s).imp_right Or.inl
  | nudge direction => exact Or.inl (keeps_nudge s direction)
  | clickBlock m => exact Or.inl (keeps_clickBlock s m)
  | advance dt => exact Or.inr (Or.inr ⟨dt, rfl⟩)

/-- As time passes, two sprites swap their scripts and the cursor is left without its block. -/
structure Strays (s : Studio) (dt : Duration) : Prop where
  onBlock : s.OnBlock
  lockOpen : s.run.playback.swapLocked = false
  locked : (s.advance dt).run.playback.swapLocked = true
  swapped : ∃ a b, (s.advance dt).run.program = s.run.program.swapScripts a b
  offBlock : ¬ (s.advance dt).OnBlock

/-- The pointers keep pointing, whatever happens. -/
theorem pointing_does (h : s.Pointing) (g : Gesture) : (s.does g).Pointing := by
  rcases s.does_cases g with hkeeps | hplaces | ⟨dt, rfl⟩
  · exact hkeeps.pointing h
  · exact hplaces.pointing h
  · have hids := congrArg List.length (Run.ids_advance s.run dt)
    rw [List.length_map, List.length_map] at hids
    exact h.of_eq rfl rfl rfl hids

/-- **What happens to the cursor.** It is on a block afterwards, or it has stayed where it was, and
then it was on no block before or time has passed and a swap has taken the block away. -/
theorem cursor_does (s : Studio) (g : Gesture) :
    (s.does g).OnBlock ∨
      s.SameCursor (s.does g) ∧ (s.OnBlock → ∃ dt, g = .advance dt ∧ s.Strays dt) := by
  rcases s.does_cases g with hkeeps | hplaces | ⟨dt, rfl⟩
  · by_cases hon : s.OnBlock
    · exact Or.inl (hon.of_same hkeeps.cursor hkeeps.length)
    · exact Or.inr ⟨hkeeps.cursor, fun h => absurd h hon⟩
  · exact Or.inl hplaces.onBlock
  · by_cases hoff : (s.advance dt).OnBlock
    · exact Or.inl hoff
    · refine Or.inr ⟨⟨rfl, rfl⟩, fun hon => ⟨dt, rfl, ?_⟩⟩
      rcases Run.program_advance_cases s.run dt with hprogram | ⟨hopen, hlocked, hswapped⟩
      · -- the script is the same, so the cursor cannot have left it
        have hkeeps : s.Keeps (s.advance dt) := keeps_of_scriptLengths (by rw [hprogram])
        exact absurd (hon.of_same hkeeps.cursor hkeeps.length) hoff
      · exact ⟨hon, hopen, hlocked, hswapped, hoff⟩

/-- **Pointers that point.** Whatever the user of a studio does and however time passes, there is an
item of the palette under its pointer, and a sprite if there are any. The cursor is on a block, and
then there is one to act on as long as the script has any, unless a swap has taken the block away
and the cursor has stayed where it was ever since. -/
theorem cursor_after (program : Program) (settings : Settings) (seed : UInt64)
    (gestures : List Gesture) :
    ((enter program settings seed).after gestures).Pointing ∧
      (((enter program settings seed).after gestures).OnBlock ∧
          (((enter program settings seed).after gestures).script ≠ [] →
            ((enter program settings seed).after gestures).sprite?.isSome = true ∧
              ((enter program settings seed).after gestures).block?.isSome = true) ∨
        ∃ before dt later, gestures = before ++ .advance dt :: later ∧
          ((enter program settings seed).after before).Strays dt ∧
          ((enter program settings seed).after before).SameCursor
            ((enter program settings seed).after gestures)) := by
  induction gestures using List.reverseRecOn with
  | nil =>
    have hon : (enter program settings seed).OnBlock := onBlock_of_eq_zero rfl
    have hpalette : 0 < SpriteStage.palette.length := by decide
    refine ⟨⟨hpalette, fun hsome => List.length_pos_iff.2 hsome⟩, Or.inl ⟨hon, ?_⟩⟩
    exact hon.isSome_block?
  | append_singleton gestures g ih =>
    obtain ⟨hpointing, hcursor⟩ := ih
    rw [after_concat]
    refine ⟨pointing_does hpointing g, ?_⟩
    rcases cursor_does ((enter program settings seed).after gestures) g with hon | ⟨hsame, hwhy⟩
    · exact Or.inl ⟨hon, hon.isSome_block?⟩
    · right
      rcases hcursor with ⟨hon, -⟩ | ⟨before, dt, later, rfl, hstrays, hsince⟩
      · obtain ⟨dt, rfl, hstrays⟩ := hwhy hon
        exact ⟨gestures, dt, [], rfl, hstrays, hsame⟩
      · refine ⟨before, dt, later ++ [g], by simp, hstrays, ?_⟩
        exact ⟨hsame.1.trans hsince.1, hsame.2.trans hsince.2⟩

/-- The cursor is on the second block of the first of two sprites, which have ids of their own and
meet. The other script has but one block, and there is none under the cursor once they swapped. -/
theorem cursor_off_script_encounter :
    let s := (enter .encounter {} 7).after [.moveCursor 1, .togglePlay, .advance (.ofMillis 500)]
    Program.check .encounter = .ok () ∧ s.script ≠ [] ∧ s.block? = none ∧ ¬ s.OnBlock := by
  intro s
  have hswap : s.run.program = Program.encounter.swapScripts ⟨1⟩ ⟨2⟩ := by
    show (Run.advance (((enter .encounter {} 7).moveCursor 1).togglePlay).run _).program = _
    rw [Run.program_advance_of_swap (a := ⟨1⟩) (b := ⟨2⟩) 2 (by decide +kernel)]
    rfl
  have hscript : s.script = [⟨⟨3⟩, .bubble .say (some "Hello") (some 2.0)⟩] := by
    rw [script, sprite?, hswap]
    rfl
  have hindex : s.blockIndex = 1 := rfl
  refine ⟨by decide, ?_, ?_, ?_⟩
  · rw [hscript]
    simp
  · rw [block?, hscript, hindex]
    rfl
  · rw [OnBlock, hscript, hindex]
    simp

end Studio

end SpriteStage
