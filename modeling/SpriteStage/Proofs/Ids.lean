import Mathlib
import SpriteStage.Program.File

/-!
# Ids stay unambiguous

A program passes its check exactly if every id names one thing (`Program.check_eq_ok_iff`). A file
is only opened if its program passes, and no edit can spoil it (`Program.ids_stay_unambiguous`): a
new sprite and a new block get ids that were not in use, patches and removals add none, and an
exchange of scripts moves whole scripts, each of which names its blocks by itself. So it does no
harm that two scripts may use the same block id before they change places.
-/

namespace SpriteStage

/-! ## What the check asks for -/

/-- No item is repeated exactly if the items are distinct and not among those seen. -/
theorem firstRepeated?_eq_none_iff [DecidableEq α] {seen l : List α} :
    firstRepeated? seen l = none ↔ l.Nodup ∧ ∀ a ∈ l, a ∉ seen := by
  induction l generalizing seen with
  | nil => simp [firstRepeated?]
  | cons a rest ih =>
    unfold firstRepeated?
    split
    · rename_i hseen
      simp [hseen]
    · rename_i hseen
      rw [ih, List.nodup_cons]
      simp only [List.mem_cons, not_or]
      grind

namespace Program

/-- There is no fault exactly if the ids of the sprites are distinct and not among those seen, and
so are the ids in each script. -/
theorem firstFault?_eq_none_iff {seen : List SpriteId} {sprites : List Sprite} :
    firstFault? seen sprites = none ↔
      ((sprites.map (·.id)).Nodup ∧ ∀ s ∈ sprites, s.id ∉ seen) ∧
        ∀ s ∈ sprites, (s.script.map (·.id)).Nodup := by
  induction sprites generalizing seen with
  | nil => simp [firstFault?]
  | cons s rest ih =>
    unfold firstFault?
    split
    · rename_i hseen
      simp [hseen]
    · rename_i hseen
      cases hblocks : firstRepeated? [] (s.script.map (·.id)) with
      | some id =>
        have hrepeated : ¬ (s.script.map (·.id)).Nodup := by
          intro hnodup
          have hnone := firstRepeated?_eq_none_iff.2
            ⟨hnodup, fun a _ => List.not_mem_nil (a := a)⟩
          rw [hblocks] at hnone
          exact Option.some_ne_none id hnone
        simp [hrepeated]
      | none =>
        have hnodup := (firstRepeated?_eq_none_iff.1 hblocks).1
        rw [ih, List.map_cons, List.nodup_cons, List.forall_mem_cons, List.forall_mem_cons]
        simp only [List.mem_cons, not_or, List.mem_map]
        grind

/-- Every id of the program names one thing: a sprite's id among the sprites, a block's id in its
script. -/
structure Unambiguous (p : Program) : Prop where
  sprites : (p.sprites.map (·.id)).Nodup
  blocks : ∀ s ∈ p.sprites, (s.script.map (·.id)).Nodup

/-- The check passes exactly the programs whose ids name one thing each. -/
theorem check_eq_ok_iff {p : Program} : p.check = .ok () ↔ p.Unambiguous := by
  have hcheck : p.check = .ok () ↔ firstFault? [] p.sprites = none := by
    unfold check
    cases firstFault? [] p.sprites <;> simp
  rw [hcheck, firstFault?_eq_none_iff]
  constructor
  · rintro ⟨⟨hsprites, -⟩, hblocks⟩
    exact ⟨hsprites, hblocks⟩
  · intro h
    exact ⟨⟨h.sprites, fun s _ => List.not_mem_nil⟩, h.blocks⟩

theorem unambiguous_starter : Unambiguous .starter := check_eq_ok_iff.1 (by decide)

/-- A file is opened only if its program passes the check. -/
theorem check_of_ofFile {file : FileContent} {p : Program} (h : ofFile file = .ok p) :
    p.check = .ok () := by
  unfold ofFile at h
  split at h
  · -- no file yet
    cases h
    exact check_eq_ok_iff.2 unambiguous_starter
  · cases h
  · split at h
    · cases h
    · split at h
      · cases h
      · split at h
        · cases h
        · rename_i hcheck
          cases h
          exact hcheck

/-! ## Scripts put in place of others -/

/-- A new script does not change which sprites there are. -/
theorem ids_withScript (id : SpriteId) (script : Script) (sprites : List Sprite) :
    (withScript id script sprites).map (·.id) = sprites.map (·.id) := by
  induction sprites with
  | nil => rfl
  | cons s rest ih =>
    unfold withScript
    split
    · rfl
    · rw [List.map_cons, List.map_cons, ih]

theorem ids_swapScripts (p : Program) (a b : SpriteId) :
    (p.swapScripts a b).sprites.map (·.id) = p.sprites.map (·.id) := by
  unfold swapScripts
  split
  · rfl
  · split
    · exact (ids_withScript _ _ _).trans (ids_withScript _ _ _)
    · rfl

/-- What holds of all sprites, and goes on to hold of one that gets the new script, holds of all
sprites afterwards. -/
theorem forall_mem_withScript {P : Sprite → Prop} {id : SpriteId} {script : Script}
    {sprites : List Sprite} (hscript : ∀ s, P s → P { s with script := script })
    (h : ∀ s ∈ sprites, P s) : ∀ s ∈ withScript id script sprites, P s := by
  induction sprites with
  | nil => exact h
  | cons s rest ih =>
    obtain ⟨hs, hrest⟩ := List.forall_mem_cons.1 h
    unfold withScript
    split
    · exact List.forall_mem_cons.2 ⟨hscript s hs, hrest⟩
    · exact List.forall_mem_cons.2 ⟨hs, ih hrest⟩

variable {p : Program}

/-- The script of a sprite is that of one in the list. -/
theorem exists_of_script? {id : SpriteId} {script : Script} (h : p.script? id = some script) :
    ∃ s ∈ p.sprites, s.id = id ∧ s.script = script := by
  obtain ⟨s, hs, rfl⟩ := Option.map_eq_some_iff.1 h
  exact ⟨s, List.mem_of_find?_eq_some hs, by simpa using List.find?_some hs, rfl⟩

/-! ## Each edit keeps ids apart -/

/-- The script that is found under an id has distinct ids. -/
theorem Unambiguous.of_script? (h : p.Unambiguous) {id : SpriteId} {script : Script}
    (hscript : p.script? id = some script) : (script.map (·.id)).Nodup := by
  obtain ⟨s, hs, -, rfl⟩ := exists_of_script? hscript
  exact h.blocks s hs

/-- A new script needs to name its own blocks apart, whatever the other scripts use. -/
theorem Unambiguous.setScript (h : p.Unambiguous) (id : SpriteId) {script : Script}
    (hscript : (script.map (·.id)).Nodup) : (p.setScript id script).Unambiguous where
  sprites := by
    show ((withScript id script p.sprites).map (·.id)).Nodup
    rw [ids_withScript]
    exact h.sprites
  blocks := forall_mem_withScript (fun _ _ => hscript) h.blocks

/-- Swapped scripts keep their blocks, so their ids stay distinct. -/
theorem Unambiguous.swapScripts (h : p.Unambiguous) (a b : SpriteId) :
    (p.swapScripts a b).Unambiguous := by
  unfold Program.swapScripts
  split
  · exact h
  · split
    · rename_i left right hleft hright
      exact (h.setScript a (h.of_script? hright)).setScript b (h.of_script? hleft)
    · exact h

end Program

theorem Script.not_has_iff {script : Script} {id : BlockId} :
    (!Script.has script id) = true ↔ id ∉ script.map (·.id) := by
  simp [Script.has]

theorem Script.ids_patch (id : BlockId) (patch : Patch) (script : Script) :
    (Script.patch id patch script).map (·.id) = script.map (·.id) := by
  induction script with
  | nil => rfl
  | cons b rest ih =>
    unfold Script.patch
    split
    · rfl
    · rw [List.map_cons, List.map_cons, ih]

theorem Script.ids_remove_sublist (script : Script) (id : BlockId) :
    ((Script.remove script id).map (·.id)).Sublist (script.map (·.id)) :=
  List.filter_sublist.map _

namespace Program

variable {p : Program}

/-- An update keeps the ids distinct. -/
theorem Unambiguous.updateBlock? (h : p.Unambiguous) {sprite : SpriteId} {block : BlockId}
    {patch : Patch} {q : Program} (hupdate : p.updateBlock? sprite block patch = some q) :
    q.Unambiguous := by
  unfold Program.updateBlock? at hupdate
  obtain ⟨script, hscript, hupdate⟩ := Option.bind_eq_some_iff.1 hupdate
  split at hupdate
  · cases hupdate
    apply h.setScript
    rw [Script.ids_patch]
    exact h.of_script? hscript
  · cases hupdate

/-- The removal of a block keeps the ids distinct. -/
theorem Unambiguous.removeBlock? (h : p.Unambiguous) {sprite : SpriteId} {block : BlockId}
    {q : Program} (hremove : p.removeBlock? sprite block = some q) : q.Unambiguous := by
  unfold Program.removeBlock? at hremove
  obtain ⟨script, hscript, hremove⟩ := Option.bind_eq_some_iff.1 hremove
  split at hremove
  · cases hremove
    exact h.setScript _ ((h.of_script? hscript).sublist (Script.ids_remove_sublist script block))
  · cases hremove

/-- A block is added under an id that the script did not have. -/
theorem eq_of_addBlock? {sprite : SpriteId} {i : Instruction} {candidates : List BlockId}
    {id : BlockId} {q : Program} (h : p.addBlock? sprite i candidates = some (id, q)) :
    ∃ script, p.script? sprite = some script ∧ id ∉ script.map (·.id) ∧
      q = p.setScript sprite (script ++ [⟨id, i⟩]) := by
  unfold addBlock? at h
  obtain ⟨script, hscript, h⟩ := Option.bind_eq_some_iff.1 h
  obtain ⟨found, hfound, h⟩ := Option.bind_eq_some_iff.1 h
  have hfree := List.find?_some hfound
  cases h
  exact ⟨script, hscript, Script.not_has_iff.1 hfree, rfl⟩

/-- A new block keeps the ids distinct, for its id is not in use in its script. -/
theorem Unambiguous.addBlock? (h : p.Unambiguous) {sprite : SpriteId} {i : Instruction}
    {candidates : List BlockId} {id : BlockId} {q : Program}
    (hadd : p.addBlock? sprite i candidates = some (id, q)) : q.Unambiguous := by
  obtain ⟨script, hscript, hfree, rfl⟩ := eq_of_addBlock? hadd
  apply h.setScript
  rw [List.map_append, List.map_singleton, ← List.concat_eq_append]
  exact (h.of_script? hscript).concat hfree

/-! ## Ids for new sprites -/

/-- The greatest id that a sprite can have is not in use. -/
def HasRoom (p : Program) : Prop := ∀ s ∈ p.sprites, s.id.number.toNat + 1 < UInt32.size

instance (p : Program) : Decidable p.HasRoom :=
  inferInstanceAs (Decidable (∀ s ∈ p.sprites, s.id.number.toNat + 1 < UInt32.size))

/-- The greatest of some numbers is below a bound exactly if all of them are. -/
theorem toNat_foldl_max_lt_iff {numbers : List UInt32} {first : UInt32} {n : ℕ} :
    (numbers.foldl max first).toNat < n ↔ first.toNat < n ∧ ∀ x ∈ numbers, x.toNat < n := by
  induction numbers generalizing first with
  | nil => simp
  | cons x rest ih =>
    have hmax : (max first x).toNat < n ↔ first.toNat < n ∧ x.toNat < n := by
      show (if first ≤ x then x else first).toNat < n ↔ _
      split <;> rename_i h <;> rw [UInt32.le_iff_toNat_le] at h <;> omega
    rw [List.foldl_cons, ih, hmax, List.forall_mem_cons, and_assoc]

/-- A new sprite's id is greater than all those in use, so none of them. -/
theorem nextSpriteId_notMem (h : p.HasRoom) : p.nextSpriteId ∉ p.sprites.map (·.id) := by
  have hroom : ((p.sprites.map fun s : Sprite => s.id.number).foldl max 0).toNat <
      UInt32.size - 1 := by
    refine toNat_foldl_max_lt_iff.2 ⟨by decide, fun x hx => ?_⟩
    obtain ⟨s, hs, rfl⟩ := List.mem_map.1 hx
    exact Nat.lt_sub_of_add_lt (h s hs)
  have hnext : p.nextSpriteId.number.toNat =
      ((p.sprites.map fun s : Sprite => s.id.number).foldl max 0).toNat + 1 := by
    rw [nextSpriteId, UInt32.toNat_add, UInt32.toNat_one]
    exact Nat.mod_eq_of_lt (Nat.add_lt_of_lt_sub hroom)
  intro hmem
  obtain ⟨s, hs, hid⟩ := List.mem_map.1 hmem
  have hbelow : s.id.number.toNat <
      ((p.sprites.map fun s : Sprite => s.id.number).foldl max 0).toNat + 1 :=
    (toNat_foldl_max_lt_iff.1 (Nat.lt_succ_self _)).2 _ (List.mem_map.2 ⟨s, hs, rfl⟩)
  rw [hid, hnext] at hbelow
  exact Nat.lt_irrefl _ hbelow

/-- A new sprite keeps the ids distinct, as long as there is an id left for it. -/
theorem Unambiguous.addSprite (h : p.Unambiguous) (hroom : p.HasRoom) (name : String) :
    (p.addSprite name).Unambiguous where
  sprites := by
    show ((p.sprites ++ [_]).map fun s : Sprite => s.id).Nodup
    rw [List.map_append, List.map_singleton, ← List.concat_eq_append]
    exact h.sprites.concat (nextSpriteId_notMem hroom)
  blocks := by
    intro s hs
    rcases List.mem_append.1 hs with hs | hs
    · exact h.blocks s hs
    · cases List.mem_singleton.1 hs
      exact List.nodup_nil

/-! ## Sequences of edits -/

/-- An edit of a program. The ids for a new block are those that its source comes up with. -/
inductive Edit where
  | addSprite (name : String)
  | addBlock (sprite : SpriteId) (i : Instruction) (candidates : List BlockId)
  | updateBlock (sprite : SpriteId) (block : BlockId) (patch : Patch)
  | removeBlock (sprite : SpriteId) (block : BlockId)
  | swapScripts (a b : SpriteId)

/-- The program after an edit, which leaves it as it is where it cannot be made. -/
def edited (p : Program) : Edit → Program
  | .addSprite name => p.addSprite name
  | .addBlock sprite i candidates => ((p.addBlock? sprite i candidates).map (·.2)).getD p
  | .updateBlock sprite block patch => (p.updateBlock? sprite block patch).getD p
  | .removeBlock sprite block => (p.removeBlock? sprite block).getD p
  | .swapScripts a b => p.swapScripts a b

/-- Whenever a sprite is added in the course of the edits, there is an id left for it. -/
def Fits (p : Program) : List Edit → Prop
  | [] => True
  | .addSprite name :: rest => p.HasRoom ∧ Fits (p.addSprite name) rest
  | e :: rest => Fits (p.edited e) rest

/-- What an edit answers is what it leaves, if it can be made. -/
theorem Unambiguous.getD (h : p.Unambiguous) {q? : Option Program}
    (hedit : ∀ q, q? = some q → q.Unambiguous) : (q?.getD p).Unambiguous := by
  cases q? with
  | none => exact h
  | some q => exact hedit q rfl

/-- Every edit that fits keeps the ids distinct. -/
theorem Unambiguous.edited (h : p.Unambiguous) {e : Edit} (hfits : p.Fits [e]) :
    (p.edited e).Unambiguous := by
  cases e with
  | addSprite name => exact h.addSprite hfits.1 name
  | addBlock sprite i candidates =>
    apply h.getD
    intro q hq
    obtain ⟨⟨id, q⟩, hadd, rfl⟩ := Option.map_eq_some_iff.1 hq
    exact h.addBlock? hadd
  | updateBlock sprite block patch => exact h.getD fun q hq => h.updateBlock? hq
  | removeBlock sprite block => exact h.getD fun q hq => h.removeBlock? hq
  | swapScripts a b => exact h.swapScripts a b

/-- Edits fit if the first one does and the others do after it. -/
theorem fits_cons {e : Edit} {rest : List Edit} :
    p.Fits (e :: rest) ↔ p.Fits [e] ∧ (p.edited e).Fits rest := by
  cases e <;> simp [Fits, edited]

/-- After edits that fit, one after the other, the ids still name one thing each. -/
theorem Unambiguous.foldl_edited (h : p.Unambiguous) {edits : List Edit} (hfits : p.Fits edits) :
    (edits.foldl Program.edited p).Unambiguous := by
  induction edits generalizing p with
  | nil => exact h
  | cons e rest ih =>
    obtain ⟨hfirst, hrest⟩ := fits_cons.1 hfits
    exact ih (h.edited hfirst) hrest

/-- A source of ids that comes up with an unused one at some time gives the block the first such
id, however many it is asked for afterwards. -/
theorem addBlock?_of_source {sprite : SpriteId} {script : Script}
    (hscript : p.script? sprite = some script) (i : Instruction) {ids : ℕ → BlockId}
    (hfree : ∃ n, ids n ∉ script.map (·.id)) :
    ∃ n, ids n ∉ script.map (·.id) ∧ ∀ m, n < m →
      p.addBlock? sprite i ((List.range m).map ids) =
        some (ids n, p.setScript sprite (script ++ [⟨ids n, i⟩])) := by
  classical
  refine ⟨Nat.find hfree, Nat.find_spec hfree, fun m hm => ?_⟩
  have hfind : ((List.range m).map ids).find? (fun id => !Script.has script id) =
      some (ids (Nat.find hfree)) := by
    have hfirst : (List.range m).find? ((fun id => !Script.has script id) ∘ ids) =
        some (Nat.find hfree) := by
      rw [List.find?_range_eq_some]
      refine ⟨?_, List.mem_range.2 hm, fun j hj => ?_⟩
      · exact Script.not_has_iff.2 (Nat.find_spec hfree)
      · rw [Bool.not_eq_true']
        exact Bool.eq_false_iff.2 (mt Script.not_has_iff.1 (Nat.find_min hfree hj))
    rw [List.find?_map, hfirst, Option.map_some]
  simp only [addBlock?, hscript, hfind, Option.bind_eq_bind, Option.bind_some]
  rfl

/-- **Ids stay unambiguous.** A program passes the check exactly if its ids name one thing each, and
every program that is opened passes it. Whatever edits follow, it passes again, as long as there is
an id left for each sprite that is added. The id of a new sprite was not in use among the sprites.
The id of a new block was not in use in its script, from any source of ids that comes up with an
unused one at some time. -/
theorem ids_stay_unambiguous (p : Program) :
    (p.check = .ok () ↔ p.Unambiguous) ∧
    (∀ file, ofFile file = .ok p → p.check = .ok ()) ∧
    (∀ edits, p.check = .ok () → p.Fits edits → (edits.foldl edited p).check = .ok ()) ∧
    (∀ name, p.HasRoom → ∃ s, (p.addSprite name).sprites = p.sprites ++ [s] ∧
      s.id = p.nextSpriteId ∧ s.id ∉ p.sprites.map (·.id)) ∧
    ∀ sprite script i (ids : ℕ → BlockId), p.script? sprite = some script →
      (∃ n, ids n ∉ script.map (·.id)) →
      ∃ n, ids n ∉ script.map (·.id) ∧ ∀ m, n < m →
        p.addBlock? sprite i ((List.range m).map ids) =
          some (ids n, p.setScript sprite (script ++ [⟨ids n, i⟩])) := by
  refine ⟨check_eq_ok_iff, fun file => check_of_ofFile, ?_, ?_, ?_⟩
  · intro edits hcheck hfits
    exact check_eq_ok_iff.2 ((check_eq_ok_iff.1 hcheck).foldl_edited hfits)
  · intro name hroom
    exact ⟨_, rfl, rfl, nextSpriteId_notMem hroom⟩
  · intro sprite script i ids hscript hfree
    exact addBlock?_of_source hscript i hfree

/-- A block id that a new sprite and the first one have both, and their scripts change places. -/
theorem ids_stay_unambiguous_starter :
    let edits : List Edit := [.addSprite "Cat 3", .addBlock ⟨3⟩ .reveal [⟨7⟩],
      .addBlock ⟨3⟩ .hide [⟨7⟩, ⟨8⟩], .addBlock ⟨1⟩ .forever [⟨7⟩], .swapScripts ⟨1⟩ ⟨3⟩,
      .updateBlock ⟨3⟩ ⟨7⟩ {}, .removeBlock ⟨1⟩ ⟨7⟩]
    (starter.check = .ok () ∧ starter.Fits edits ∧ (edits.foldl edited starter).check = .ok ()) ∧
      (starter.HasRoom ∧ ∃ s, (starter.addSprite "Cat 3").sprites = starter.sprites ++ [s] ∧
        s.id = ⟨3⟩ ∧ s.id ∉ starter.sprites.map (·.id)) ∧
      ∃ n, ∀ m, n < m → starter.addBlock? ⟨1⟩ .reveal ((List.range m).map fun _ => ⟨7⟩) =
        some (⟨7⟩, starter.setScript ⟨1⟩ [⟨⟨7⟩, .reveal⟩]) := by
  intro edits
  obtain ⟨-, hopen, hedits, hsprite, hblock⟩ := ids_stay_unambiguous starter
  have hcheck := hopen .missing rfl
  have hroom : starter.HasRoom := by decide
  have hfits : starter.Fits edits := ⟨hroom, trivial⟩
  obtain ⟨n, -, hn⟩ := hblock ⟨1⟩ [] .reveal (fun _ => ⟨7⟩) rfl ⟨0, List.not_mem_nil⟩
  exact ⟨⟨hcheck, hfits, hedits edits hcheck hfits⟩, ⟨hroom, hsprite "Cat 3" hroom⟩, n, hn⟩

end Program

end SpriteStage
