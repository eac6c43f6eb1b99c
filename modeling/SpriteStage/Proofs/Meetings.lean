import SpriteStage.Proofs.Scripts
import SpriteStage.Proofs.Steps

/-!
# Sprites that meet and swap

The first close pair of a cast is one of two of its ids, the lower one first, and there is such a
pair exactly if two actors are close at all (`Cast.meet_iff`). When a tick swaps that pair, both are
sprites of the program, each has the other's former script afterwards, and nothing else of the
program is touched (`Staged.exchanges`).
-/

namespace SpriteStage

/-! ## The first close pair -/

/-- A pair that is found is one of the list, in the order of the list, and it is close. -/
theorem firstClose?_eq_some {distance : Float} {entries : List (SpriteId × Position)}
    (order : entries.Pairwise fun x y => x.1 < y.1) {a b : SpriteId}
    (h : firstClose? distance entries = some (a, b)) :
    a < b ∧ ∃ p q, (a, p) ∈ entries ∧ (b, q) ∈ entries ∧ p.isClose q distance = true := by
  induction entries with
  | nil => simp [firstClose?] at h
  | cons entry rest ih =>
    obtain ⟨k, p⟩ := entry
    obtain ⟨hk, hrest⟩ := List.pairwise_cons.1 order
    unfold firstClose? at h
    split at h
    · rename_i m q hfound
      obtain ⟨rfl, rfl⟩ := Prod.mk.inj (Option.some.inj h)
      have hmem := List.mem_of_find?_eq_some hfound
      refine ⟨hk _ hmem, p, q, List.mem_cons_self, List.mem_cons_of_mem _ hmem, ?_⟩
      simpa using List.find?_some hfound
    · obtain ⟨hlt, p', q', hp, hq, hclose⟩ := ih hrest h
      exact ⟨hlt, p', q', List.mem_cons_of_mem _ hp, List.mem_cons_of_mem _ hq, hclose⟩

/-- No pair is found only if no entry is close to a later one. -/
theorem pairwise_of_firstClose?_eq_none {distance : Float} {entries : List (SpriteId × Position)}
    (h : firstClose? distance entries = none) :
    entries.Pairwise fun x y => x.2.isClose y.2 distance = false := by
  induction entries with
  | nil => exact List.Pairwise.nil
  | cons entry rest ih =>
    obtain ⟨k, p⟩ := entry
    unfold firstClose? at h
    split at h
    · simp at h
    · rename_i hnone
      refine List.pairwise_cons.2 ⟨fun y hy => ?_, ih h⟩
      have hfar := List.find?_eq_none.1 hnone y hy
      simpa using hfar

/-- If no pair is found, then no entry is close to one with a higher id. -/
theorem isClose_eq_false_of_firstClose?_eq_none {distance : Float}
    {entries : List (SpriteId × Position)} (order : entries.Pairwise fun x y => x.1 < y.1)
    (h : firstClose? distance entries = none) {x y : SpriteId × Position} (hx : x ∈ entries)
    (hy : y ∈ entries) (hlt : x.1 < y.1) : x.2.isClose y.2 distance = false := by
  obtain ⟨i, hi, rfl⟩ := List.getElem_of_mem hx
  obtain ⟨j, hj, rfl⟩ := List.getElem_of_mem hy
  have hij : i < j := by
    rcases Nat.lt_trichotomy i j with hij | rfl | hij
    · exact hij
    · exact absurd hlt (UInt32.lt_irrefl _)
    · have hgt := List.pairwise_iff_getElem.1 order j i hj hi hij
      exact absurd (SpriteId.lt_trans hlt hgt) (UInt32.lt_irrefl _)
  exact List.pairwise_iff_getElem.1 (pairwise_of_firstClose?_eq_none h) i j hi hj hij

/-- Entries that ascend by their ids are looked through as they stand. -/
theorem firstClosePair?_of_ascending {entries : List (SpriteId × Position)}
    (order : entries.Pairwise fun x y => x.1 < y.1) (distance : Float) :
    firstClosePair? entries distance = firstClose? distance entries := by
  have hsorted : entries.mergeSort (fun a b => decide (a.1 ≤ b.1)) = entries := by
    apply List.mergeSort_of_pairwise
    refine order.imp ?_
    intro x y hlt
    rw [decide_eq_true_eq]
    exact UInt32.le_of_lt hlt
  rw [firstClosePair?, hsorted]

namespace Cast

/-- Two actors of the cast are close to each other. -/
def Meet (c : Cast) (distance : Float) : Prop :=
  ∃ a b p q, a < b ∧ (a, p) ∈ c.positions ∧ (b, q) ∈ c.positions ∧ p.isClose q distance = true

/-- The positions of a cast are in the order of the ids. -/
theorem positions_ascending (c : Cast) : c.positions.Pairwise fun x y => x.1 < y.1 := by
  rw [← List.pairwise_map (f := Prod.fst) (R := fun a b => a < b), positions_keys]
  exact c.ascending

/-- So sorting them changes nothing. -/
theorem firstClosePair?_positions (c : Cast) (distance : Float) :
    firstClosePair? c.positions distance = firstClose? distance c.positions :=
  firstClosePair?_of_ascending c.positions_ascending distance

/-- There is a first close pair exactly if two actors are close to each other. -/
theorem meet_iff {c : Cast} {distance : Float} :
    c.Meet distance ↔ ∃ pair, firstClosePair? c.positions distance = some pair := by
  rw [firstClosePair?_positions]
  constructor
  · rintro ⟨a, b, p, q, hlt, hp, hq, hclose⟩
    rw [← Option.isSome_iff_exists, Option.isSome_iff_ne_none]
    intro hnone
    have hfar := isClose_eq_false_of_firstClose?_eq_none c.positions_ascending hnone hp hq hlt
    rw [hclose] at hfar
    simp at hfar
  · rintro ⟨⟨a, b⟩, hfirst⟩
    obtain ⟨hlt, p, q, hp, hq, hclose⟩ := firstClose?_eq_some c.positions_ascending hfirst
    exact ⟨a, b, p, q, hlt, hp, hq, hclose⟩

end Cast

/-! ## Exchanged scripts -/

/-- The sprite after two others, or it and another, have exchanged their scripts. -/
def Sprite.exchanged (first second s : Sprite) : Sprite :=
  if s.id = first.id then { s with script := second.script }
  else if s.id = second.id then { s with script := first.script }
  else s

namespace Program

/-- Where ids come once, a new script goes to the one sprite of that id. -/
theorem withScript_eq_map {id : SpriteId} {script : Script} {sprites : List Sprite}
    (hids : (sprites.map (·.id)).Nodup) :
    withScript id script sprites =
      sprites.map fun s => if s.id = id then { s with script := script } else s := by
  induction sprites with
  | nil => rfl
  | cons s rest ih =>
    obtain ⟨hs, hrest⟩ := List.nodup_cons.1 hids
    unfold withScript
    rw [List.map_cons]
    by_cases hid : s.id = id
    · -- the id does not come again
      have hsame : rest.map (fun t => if t.id = id then { t with script := script } else t) =
          rest := by
        conv_rhs => rw [← List.map_id rest]
        apply List.map_congr_left
        intro t ht
        have hne : t.id ≠ id := by
          intro he
          exact hs (List.mem_map.2 ⟨t, ht, he.trans hid.symm⟩)
        rw [if_neg hne, id_eq]
      rw [if_pos hid, if_pos hid, hsame]
    · rw [if_neg hid, if_neg hid, ih hrest]

/-- **A swap is an exchange.** Each of two sprites gets the script of the other, and that is all. -/
theorem swapScripts_eq {p : Program} (hids : (p.sprites.map (·.id)).Nodup) {first second : Sprite}
    (hfirst : first ∈ p.sprites) (hsecond : second ∈ p.sprites) (hne : first.id ≠ second.id) :
    p.swapScripts first.id second.id =
      { p with sprites := p.sprites.map (Sprite.exchanged first second) } := by
  have hids' : ((withScript first.id second.script p.sprites).map (·.id)).Nodup := by
    rw [ids_withScript]
    exact hids
  unfold swapScripts
  rw [if_neg hne, script?, script?, sprite?_of_mem hids hfirst, sprite?_of_mem hids hsecond]
  show Program.mk _ (withScript _ _ (withScript _ _ _)) = _
  rw [withScript_eq_map hids', withScript_eq_map hids, List.map_map]
  congr 1
  apply List.map_congr_left
  intro s _
  unfold Sprite.exchanged
  by_cases hs : s.id = first.id
  · simp [hs, hne]
  · by_cases hs' : s.id = second.id
    · simp [hs', hne.symm]
    · simp [hs, hs']

end Program

namespace Run

/-! ## Ticks that swap -/

variable {r : Run}

/-- On a tick of this run two sprites are close once the scripts have run. -/
def Meets (r : Run) : Prop := r.acted.playback.cast.Meet r.playback.settings.swapDistance

/-- The pair that a tick of this run swaps. -/
def swapped? (r : Run) : Option (SpriteId × SpriteId) :=
  if r.playback.swapLocked then none
  else firstClose? r.playback.settings.swapDistance r.acted.playback.cast.positions

/-- **What a tick does to the program.** The pair that it swaps exchange their scripts. -/
theorem tick_eq_swapped? (r : Run) (session : Token) :
    r.tick session =
      match r.swapped? with
      | some (a, b) => r.acted.swap session a b
      | none => r.acted := by
  rw [tick_eq, swapped?, Cast.firstClosePair?_positions]
  split <;> rfl

/-- The pair that a tick swaps are two actors of the stage, the one of the lower id first. -/
theorem mem_ids_of_swapped? {a b : SpriteId} (h : r.swapped? = some (a, b)) :
    a < b ∧ a ∈ r.playback.cast.ids ∧ b ∈ r.playback.cast.ids := by
  have hpair : firstClose? r.playback.settings.swapDistance r.acted.playback.cast.positions =
      some (a, b) := by
    unfold swapped? at h
    split at h
    · simp at h
    · exact h
  have hids : ∀ {id position}, (id, position) ∈ r.acted.playback.cast.positions →
      id ∈ r.playback.cast.ids := by
    intro id position hmem
    rw [← ids_actAll r.playback.viewport r.program.sprites, ← Cast.positions_keys]
    exact List.mem_map_of_mem hmem
  obtain ⟨hlt, p, q, hp, hq, -⟩ := firstClose?_eq_some (Cast.positions_ascending _) hpair
  exact ⟨hlt, hids hp, hids hq⟩

/-- A tick swaps exactly if the lock is open and two sprites are close. -/
theorem exists_swapped?_iff :
    (∃ pair, r.swapped? = some pair) ↔ r.playback.swapLocked = false ∧ r.Meets := by
  unfold swapped? Meets
  rw [Cast.meet_iff, Cast.firstClosePair?_positions]
  cases r.playback.swapLocked <;> simp

/-- A tick closes the lock exactly if it swaps. -/
theorem swapLocked_tick_iff (session : Token) :
    (r.tick session).playback.swapLocked = true ↔ r.playback.swapLocked = true ∨ r.Meets := by
  have hswaps := exists_swapped?_iff (r := r)
  rw [tick_eq_swapped?]
  cases hpair : r.swapped? with
  | none =>
    simp only [hpair, reduceCtorEq, exists_false, false_iff, not_and] at hswaps
    show r.playback.swapLocked = true ↔ _
    cases hlock : r.playback.swapLocked with
    | true => simp
    | false => simp [hswaps hlock]
  | some pair =>
    show (r.acted.swap session pair.1 pair.2).playback.swapLocked = true ↔ _
    rw [swapLocked_swap]
    simp [(hswaps.1 ⟨pair, hpair⟩).2]

/-- From `r` to `m` the sprites of two ids have exchanged their scripts, and it is told. -/
structure Exchanges (r m : Run) (a b : SpriteId) : Prop where
  lower : a < b
  /-- Both are sprites of the program, each gets the other's script, and nothing else changes. -/
  program : ∃ first ∈ r.program.sprites, ∃ second ∈ r.program.sprites,
    first.id = a ∧ second.id = b ∧
      m.program = { r.program with sprites := r.program.sprites.map (first.exchanged second) } ∧
      m.playback.lastSwap = some ⟨first.name, second.name, r.playback.clock.asMillis⟩
  highlighted : m.playback.highlighted = some (a, b)
  locked : m.playback.swapLocked = true

/-- A highlight of two sprites that stay survives a look at the program. -/
theorem highlighted_sync {p : Playback} {sprites : List Sprite} {a b : SpriteId}
    (h : p.highlighted = some (a, b)) (ha : a ∈ sprites.map (·.id)) (hb : b ∈ sprites.map (·.id)) :
    (p.sync sprites).highlighted = some (a, b) := by
  have hstays : ∀ id ∈ sprites.map (·.id), id ∉ p.cast.departed sprites := by
    intro id hid hgone
    obtain ⟨s, hs, rfl⟩ := List.mem_map.1 hid
    have hany := (List.mem_filter.1 hgone).2
    rw [Bool.not_eq_true', List.any_eq_false] at hany
    exact hany s hs (by simp)
  have hnoticed : (p.noticed sprites).highlighted = some (a, b) := by
    show p.highlighted.filter _ = _
    rw [h, Option.filter_some, if_pos (by simp [hstays a ha, hstays b hb])]
  apply Playback.sync_cases (P := fun q => q.highlighted = some (a, b))
  · intro _
    exact h
  · intro _
    exact hnoticed
  · intro session schedule _
    exact hnoticed

/-- **A swap is real.** On a run whose sprites are on the stage, the pair that a tick swaps are two
sprites of the program, and they exchange their scripts. -/
theorem Staged.exchanges (h : Staged r) (session : Token) {a b : SpriteId}
    (hswap : r.swapped? = some (a, b)) : r.Exchanges (r.tick session) a b := by
  -- the stage holds the sprites of the program
  obtain ⟨hlt, ha, hb⟩ := mem_ids_of_swapped? hswap
  rw [h.mem_ids_iff] at ha hb
  have hne : a ≠ b := by
    rintro rfl
    exact absurd hlt (UInt32.lt_irrefl _)
  obtain ⟨first, hfirst, rfl⟩ := List.mem_map.1 ha
  obtain ⟨second, hsecond, rfl⟩ := List.mem_map.1 hb
  have hnames : ∀ s ∈ r.program.sprites, r.program.nameOf s.id = s.name := by
    intro s hs
    rw [Program.nameOf, Program.sprite?_of_mem h.unique hs]
    rfl
  have hprogram := Program.swapScripts_eq h.unique hfirst hsecond hne
  rw [tick_eq_swapped?, hswap]
  show r.Exchanges (r.acted.swap session first.id second.id) _ _
  rw [swap_eq]
  have halike := Playback.alike_sync (r.acted.announced session first.id second.id)
    (r.program.swapScripts first.id second.id).sprites
  refine ⟨hlt, ⟨first, hfirst, second, hsecond, rfl, rfl, hprogram, ?_⟩, ?_, ?_⟩
  · rw [← hnames first hfirst, ← hnames second hsecond]
    exact halike.lastSwap
  · apply highlighted_sync rfl
    · rw [Program.ids_swapScripts]
      exact List.mem_map_of_mem hfirst
    · rw [Program.ids_swapScripts]
      exact List.mem_map_of_mem hsecond
  · exact halike.swapLocked

end Run

end SpriteStage
