import Mathlib
import SpriteStage.Proofs.Ids

/-!
# The first fault of a program

A sprite is at fault if an earlier sprite has its id, or else if two blocks of its script have the
same id (`FaultOf`). The check of a program stops at the first sprite at fault, and so it names the
fault that comes first (`Program.check_names_first_fault`).
-/

namespace SpriteStage

/-! ## The first repetition of a list -/

/-- A scan stops at the first item that is among those seen or among the items before it. -/
theorem firstRepeated?_eq_some_iff [DecidableEq α] {seen l : List α} {a : α} :
    firstRepeated? seen l = some a ↔
      ∃ before after, l = before ++ a :: after ∧ (before.Nodup ∧ ∀ b ∈ before, b ∉ seen) ∧
        (a ∈ before ∨ a ∈ seen) := by
  induction l generalizing seen with
  | nil => simp [firstRepeated?]
  | cons b rest ih =>
    unfold firstRepeated?
    split
    · rename_i hseen
      constructor
      · rintro ⟨⟩
        exact ⟨[], rest, rfl, ⟨List.nodup_nil, by simp⟩, Or.inr hseen⟩
      · rintro ⟨before, after, hl, ⟨-, hbefore⟩, -⟩
        cases before with
        | nil => rw [(List.cons.inj hl).1]
        | cons c before =>
          -- the scan would have stopped before
          obtain rfl := (List.cons.inj hl).1
          exact absurd hseen (hbefore b List.mem_cons_self)
    · rename_i hseen
      rw [ih]
      constructor
      · rintro ⟨before, after, rfl, ⟨hnodup, hbefore⟩, ha⟩
        refine ⟨b :: before, after, rfl, ⟨List.nodup_cons.2 ⟨fun hb => ?_, hnodup⟩, ?_⟩, ?_⟩
        · exact hbefore b hb List.mem_cons_self
        · refine List.forall_mem_cons.2 ⟨hseen, fun c hc hseen => ?_⟩
          exact hbefore c hc (List.mem_cons_of_mem _ hseen)
        · rcases ha with ha | ha
          · exact Or.inl (List.mem_cons_of_mem _ ha)
          · rcases List.mem_cons.1 ha with rfl | ha
            · exact Or.inl List.mem_cons_self
            · exact Or.inr ha
      · rintro ⟨before, after, hl, ⟨hnodup, hbefore⟩, ha⟩
        cases before with
        | nil =>
          obtain rfl := (List.cons.inj hl).1
          exact absurd (ha.resolve_left List.not_mem_nil) hseen
        | cons c before =>
          obtain ⟨rfl, rfl⟩ := List.cons.inj hl
          obtain ⟨hb, hnodup⟩ := List.nodup_cons.1 hnodup
          obtain ⟨-, hbefore⟩ := List.forall_mem_cons.1 hbefore
          refine ⟨before, after, rfl, ⟨hnodup, fun d hd hseen => ?_⟩, ?_⟩
          · rcases List.mem_cons.1 hseen with rfl | hseen
            · exact hb hd
            · exact hbefore d hd hseen
          · rcases ha with ha | ha
            · rcases List.mem_cons.1 ha with rfl | ha
              · exact Or.inr List.mem_cons_self
              · exact Or.inl ha
            · exact Or.inr (List.mem_cons_of_mem _ ha)

/-! ## The fault of a sprite -/

/-- The fault of a sprite that comes after sprites with these ids. If one of them has its id, that
is its fault. Otherwise it is the id of the first block of its script that an earlier block of the
script has too. -/
inductive FaultOf (ids : List SpriteId) (s : Sprite) : IdFault → Prop
  | sprite (hid : s.id ∈ ids) : FaultOf ids s (.repeatedSprite s.id)
  | block {before after : Script} {b : Block} (hid : s.id ∉ ids)
      (hscript : s.script = before ++ b :: after) (hbefore : (before.map (·.id)).Nodup)
      (hblock : b.id ∈ before.map (·.id)) : FaultOf ids s (.repeatedBlock s.id b.id)

/-- The fault that the check names when it comes to a sprite. -/
def Sprite.fault? (ids : List SpriteId) (s : Sprite) : Option IdFault :=
  if s.id ∈ ids then some (.repeatedSprite s.id)
  else (firstRepeated? [] (s.script.map (·.id))).map (.repeatedBlock s.id)

/-- A fault is found exactly if it is the fault of the sprite. -/
theorem Sprite.fault?_eq_some_iff {ids : List SpriteId} {s : Sprite} {f : IdFault} :
    s.fault? ids = some f ↔ FaultOf ids s f := by
  unfold fault?
  split
  · rename_i hid
    constructor
    · rintro ⟨⟩
      exact .sprite hid
    · intro h
      cases h with
      | sprite => rfl
      | block hnot => exact absurd hid hnot
  · rename_i hid
    rw [Option.map_eq_some_iff]
    constructor
    · rintro ⟨id, hrepeated, rfl⟩
      obtain ⟨before, after, hl, ⟨hnodup, -⟩, hmem⟩ := firstRepeated?_eq_some_iff.1 hrepeated
      obtain ⟨blocks, rest, hscript, rfl, hrest⟩ := List.map_eq_append_iff.1 hl
      obtain ⟨b, later, rfl, rfl, rfl⟩ := List.map_eq_cons_iff.1 hrest
      exact .block hid hscript hnodup (hmem.resolve_right List.not_mem_nil)
    · intro h
      cases h with
      | sprite hmem => exact absurd hmem hid
      | @block before after b _ hscript hbefore hblock =>
        refine ⟨b.id, firstRepeated?_eq_some_iff.2
          ⟨before.map (·.id), after.map (·.id), ?_, ⟨hbefore, ?_⟩, Or.inl hblock⟩, rfl⟩
        · rw [hscript, List.map_append, List.map_cons]
        · exact fun _ _ => List.not_mem_nil

/-- Only which ids are there matters. -/
theorem Sprite.fault?_congr {ids ids' : List SpriteId} {s : Sprite} (h : s.id ∈ ids ↔ s.id ∈ ids') :
    s.fault? ids = s.fault? ids' := by
  unfold fault?
  simp only [h]

/-! ## The first sprite at fault -/

namespace Program

/-- The check goes on to the next sprite only if a sprite is not at fault. -/
theorem firstFault?_cons (seen : List SpriteId) (s : Sprite) (rest : List Sprite) :
    firstFault? seen (s :: rest) = (s.fault? seen).or (firstFault? (s.id :: seen) rest) := by
  rw [firstFault?]
  unfold Sprite.fault?
  split
  · rfl
  · cases firstRepeated? [] (s.script.map (·.id)) <;> rfl

/-- The fault of the sprite at a place in the list, which comes after the sprites before it. -/
def FaultAt (sprites : List Sprite) (n : ℕ) (f : IdFault) : Prop :=
  ∃ s, sprites[n]? = some s ∧ FaultOf ((sprites.take n).map (·.id)) s f

/-- The check stops at the first sprite at fault, when those seen came before. -/
theorem firstFault?_eq_some_iff {seen : List SpriteId} {sprites : List Sprite} {f : IdFault} :
    firstFault? seen sprites = some f ↔
      ∃ n, (∃ s : Sprite, sprites[n]? = some s ∧
          s.fault? (seen ++ (sprites.take n).map (·.id)) = some f) ∧
        ∀ m < n, ∀ t : Sprite, sprites[m]? = some t →
          t.fault? (seen ++ (sprites.take m).map (·.id)) = none := by
  induction sprites generalizing seen with
  | nil => simp [firstFault?]
  | cons s rest ih =>
    have hseen : ∀ (t : Sprite) (n : ℕ),
        t.fault? (s.id :: seen ++ (rest.take n).map (·.id)) =
          t.fault? (seen ++ ((s :: rest).take (n + 1)).map (·.id)) := by
      intro t n
      apply Sprite.fault?_congr
      simp only [List.take_succ_cons, List.map_cons, List.mem_append, List.mem_cons]
      tauto
    rw [firstFault?_cons, Option.or_eq_some_iff, ih]
    simp only [hseen]
    constructor
    · rintro (hfirst | ⟨hnone, n, ⟨t, ht, hfault⟩, hbefore⟩)
      · exact ⟨0, ⟨s, rfl, by simpa using hfirst⟩, fun m hm => absurd hm (Nat.not_lt_zero m)⟩
      · refine ⟨n + 1, ⟨t, ht, hfault⟩, fun m hm u hu => ?_⟩
        cases m with
        | zero =>
          obtain rfl := Option.some.inj hu
          simpa using hnone
        | succ m => exact hbefore m (Nat.lt_of_succ_lt_succ hm) u hu
    · rintro ⟨n, ⟨t, ht, hfault⟩, hbefore⟩
      cases n with
      | zero =>
        obtain rfl := Option.some.inj ht
        exact Or.inl (by simpa using hfault)
      | succ n =>
        refine Or.inr ⟨by simpa using hbefore 0 (Nat.succ_pos n) s rfl, n, ⟨t, ht, hfault⟩, ?_⟩
        exact fun m hm u hu => hbefore (m + 1) (Nat.succ_lt_succ hm) u hu

/-- **The first fault.** A program passes the check exactly if its sprites have ids of their own and
so do the blocks in each script, whatever ids are used in the other scripts. Otherwise the check
names the fault of the first sprite that is at fault. -/
theorem check_names_first_fault (p : Program) :
    (p.check = .ok () ↔
      (p.sprites.map (·.id)).Nodup ∧ ∀ s ∈ p.sprites, (s.script.map (·.id)).Nodup) ∧
    ∀ f, p.check = .error f ↔
      ∃ n, FaultAt p.sprites n f ∧ ∀ m < n, ∀ g, ¬ FaultAt p.sprites m g := by
  constructor
  · rw [check_eq_ok_iff]
    exact ⟨fun h => ⟨h.sprites, h.blocks⟩, fun h => ⟨h.1, h.2⟩⟩
  · intro f
    have hcheck : p.check = .error f ↔ firstFault? [] p.sprites = some f := by
      unfold check
      cases firstFault? [] p.sprites <;> simp
    rw [hcheck, firstFault?_eq_some_iff]
    simp only [List.nil_append, Sprite.fault?_eq_some_iff, Option.eq_none_iff_forall_ne_some, ne_eq]
    refine exists_congr fun n => and_congr_right' ⟨?_, ?_⟩
    · rintro hbefore m hm g ⟨t, ht, hfault⟩
      exact hbefore m hm t ht g hfault
    · intro hbefore m hm t ht g hfault
      exact hbefore m hm g ⟨t, ht, hfault⟩

/-- The second and the third sprite repeat the id of a block, and the third one its own id. A block
id of the first sprite in the second one is no fault. -/
example :
    let block (n : UInt64) : Block := ⟨⟨n⟩, .reveal⟩
    let sprites : List Sprite := [⟨⟨1⟩, "Cat 1", 0.0, 0.0, [block 7]⟩,
      ⟨⟨2⟩, "Cat 2", 0.0, 0.0, [block 7, block 8, block 9, block 8, block 7]⟩,
      ⟨⟨1⟩, "Cat 3", 0.0, 0.0, [block 7, block 7]⟩]
    check ⟨{}, sprites⟩ = .error (.repeatedBlock ⟨2⟩ ⟨8⟩) ∧
      check ⟨{}, sprites.eraseIdx 1⟩ = .error (.repeatedSprite ⟨1⟩) := by
  decide

end Program

end SpriteStage
