import SpriteStage.Proofs.Distances
import SpriteStage.Proofs.Meetings

/-!
# The first close pair

Of all pairs of sprites that are close, the first one has the lowest ids: the lowest first id and,
with it, the lowest second one (`first_close_pair`). The sprites are brought into the order of their
ids, and then the first entry that is close to a later one is found; what is passed over on the way
is close to nothing after it (`lowest_of_firstClose?`).
-/

namespace SpriteStage

/-- The sprites of two ids, the lower one first, are listed and close. -/
def ClosePair (positions : List (SpriteId × Position)) (distance : Float) (a b : SpriteId) : Prop :=
  a < b ∧ ∃ p q, (a, p) ∈ positions ∧ (b, q) ∈ positions ∧ p.isClose q distance = true

theorem SpriteId.lt_irrefl (a : SpriteId) : ¬ a < a := UInt32.lt_irrefl _

/-- Two listed sprites are close exactly if they are a close pair, with the lower id first. -/
theorem exists_closePair_iff {positions : List (SpriteId × Position)} {distance : Float} :
    (∃ a b, ClosePair positions distance a b) ↔
      ∃ x ∈ positions, ∃ y ∈ positions, x.1 ≠ y.1 ∧ x.2.isClose y.2 distance = true := by
  constructor
  · rintro ⟨a, b, hlt, p, q, hp, hq, hclose⟩
    refine ⟨(a, p), hp, (b, q), hq, ?_, hclose⟩
    rintro rfl
    exact SpriteId.lt_irrefl a hlt
  · rintro ⟨⟨a, p⟩, hp, ⟨b, q⟩, hq, hne, hclose⟩
    by_cases hlt : a < b
    · exact ⟨a, b, hlt, p, q, hp, hq, hclose⟩
    · have hgt := SpriteId.lt_of_not_lt_of_ne hlt hne
      exact ⟨b, a, hgt, q, p, hq, hp, by rw [Position.isClose_comm, hclose]⟩

/-- A close pair is one among more positions too. -/
theorem ClosePair.of_subset {l m : List (SpriteId × Position)} {distance : Float} {a b : SpriteId}
    (h : ClosePair l distance a b) (hsub : l ⊆ m) : ClosePair m distance a b := by
  obtain ⟨hlt, p, q, hp, hq, hclose⟩ := h
  exact ⟨hlt, p, q, hsub hp, hsub hq, hclose⟩

/-- In ascending entries a close pair is one of the first entry and a later one, or one of later
entries. -/
theorem closePair_cons {k : SpriteId} {p : Position} {rest : List (SpriteId × Position)}
    {distance : Float} (order : ((k, p) :: rest).Pairwise fun x y => x.1 < y.1) {a b : SpriteId} :
    ClosePair ((k, p) :: rest) distance a b ↔
      a = k ∧ (∃ q, (b, q) ∈ rest ∧ p.isClose q distance = true) ∨
        ClosePair rest distance a b := by
  obtain ⟨hk, hrest⟩ := List.pairwise_cons.1 order
  constructor
  · rintro ⟨hlt, p', q, hp, hq, hclose⟩
    have hlater : (b, q) ∈ rest := by
      rcases List.mem_cons.1 hq with heq | hq
      · -- nothing comes before the first id
        obtain ⟨rfl, rfl⟩ := Prod.mk.inj heq
        rcases List.mem_cons.1 hp with heq | hp
        · obtain ⟨rfl, rfl⟩ := Prod.mk.inj heq
          exact absurd hlt (SpriteId.lt_irrefl _)
        · exact absurd (SpriteId.lt_trans hlt (hk _ hp)) (SpriteId.lt_irrefl _)
      · exact hq
    rcases List.mem_cons.1 hp with heq | hp
    · obtain ⟨rfl, rfl⟩ := Prod.mk.inj heq
      exact Or.inl ⟨rfl, q, hlater, hclose⟩
    · exact Or.inr ⟨hlt, p', q, hp, hlater, hclose⟩
  · rintro (⟨rfl, q, hq, hclose⟩ | hlater)
    · exact ⟨hk _ hq, p, q, List.mem_cons_self, List.mem_cons_of_mem _ hq, hclose⟩
    · exact hlater.of_subset (List.subset_cons_self _ _)

/-- The first entry with a property has the lowest id of all that have it. -/
theorem le_of_find?_eq_some {entries : List (SpriteId × Position)}
    (order : entries.Pairwise fun x y => x.1 < y.1) {has : SpriteId × Position → Bool}
    {first entry : SpriteId × Position} (hfound : entries.find? has = some first)
    (hmem : entry ∈ entries) (hhas : has entry = true) : first.1 ≤ entry.1 := by
  obtain ⟨-, before, after, rfl, hbefore⟩ := List.find?_eq_some_iff_append.1 hfound
  rcases List.mem_append.1 hmem with hmem | hmem
  · have hnot := hbefore entry hmem
    rw [hhas] at hnot
    cases hnot
  · rcases List.mem_cons.1 hmem with rfl | hmem
    · exact UInt32.le_refl _
    · have hafter := (List.pairwise_cons.1 (List.pairwise_append.1 order).2.1).1 entry hmem
      exact UInt32.le_of_lt hafter

/-- The pair that is found is the lowest close one. -/
theorem lowest_of_firstClose? {distance : Float} {entries : List (SpriteId × Position)}
    (order : entries.Pairwise fun x y => x.1 < y.1) {a b : SpriteId}
    (h : firstClose? distance entries = some (a, b)) {c d : SpriteId}
    (hclose : ClosePair entries distance c d) : a < c ∨ a = c ∧ b ≤ d := by
  induction entries with
  | nil => simp [firstClose?] at h
  | cons entry rest ih =>
    obtain ⟨k, p⟩ := entry
    obtain ⟨hk, hrest⟩ := List.pairwise_cons.1 order
    unfold firstClose? at h
    split at h
    · -- the first entry is close to a later one
      rename_i m q hfound
      obtain ⟨rfl, rfl⟩ := Prod.mk.inj (Option.some.inj h)
      rcases (closePair_cons order).1 hclose with ⟨rfl, q', hq', hnear⟩ | hlater
      · have hle := le_of_find?_eq_some hrest hfound hq' hnear
        exact Or.inr ⟨rfl, hle⟩
      · obtain ⟨-, p', -, hp', -⟩ := hlater
        exact Or.inl (hk _ hp')
    · -- it is close to none, so the pair is one of later entries
      rename_i hnone
      rcases (closePair_cons order).1 hclose with ⟨rfl, q', hq', hnear⟩ | hlater
      · have hfar := List.find?_eq_none.1 hnone _ hq'
        exact absurd hnear hfar
      · exact ih hrest h hlater

variable {positions : List (SpriteId × Position)}

/-- Where ids come once, positions in the order of their ids ascend. -/
theorem ascending_mergeSort (hids : (positions.map (·.1)).Nodup) :
    (positions.mergeSort fun a b => decide (a.1 ≤ b.1)).Pairwise fun x y => x.1 < y.1 := by
  have hperm := (List.mergeSort_perm positions fun a b => decide (a.1 ≤ b.1)).map (·.1)
  have hne := List.pairwise_map.1 (hperm.nodup_iff.2 hids)
  refine ((pairwise_mergeSort_ids positions).and hne).imp ?_
  rintro x y ⟨hle, hne⟩
  exact SpriteId.lt_of_not_lt_of_ne (UInt32.not_lt.2 hle) hne.symm

/-- In whatever order the positions are, the close pairs are the same. -/
theorem closePair_mergeSort {distance : Float} {a b : SpriteId} :
    ClosePair (positions.mergeSort fun a b => decide (a.1 ≤ b.1)) distance a b ↔
      ClosePair positions distance a b := by
  unfold ClosePair
  simp only [List.mem_mergeSort]

/-- What is found is a close pair, and the lowest one. -/
theorem firstClosePair?_eq_some (hids : (positions.map (·.1)).Nodup) {distance : Float}
    {a b : SpriteId} (h : firstClosePair? positions distance = some (a, b)) :
    ClosePair positions distance a b ∧
      ∀ c d, ClosePair positions distance c d → a < c ∨ a = c ∧ b ≤ d := by
  have order := ascending_mergeSort hids
  refine ⟨closePair_mergeSort.1 (firstClose?_eq_some order h), fun c d hclose => ?_⟩
  exact lowest_of_firstClose? order h (closePair_mergeSort.2 hclose)

/-- Nothing is found only where no pair is close. -/
theorem not_closePair_of_firstClosePair?_eq_none (hids : (positions.map (·.1)).Nodup)
    {distance : Float} (h : firstClosePair? positions distance = none) (a b : SpriteId) :
    ¬ ClosePair positions distance a b := by
  intro hclose
  obtain ⟨hlt, p, q, hp, hq, hnear⟩ := closePair_mergeSort.2 hclose
  have hfar := isClose_eq_false_of_firstClose?_eq_none (ascending_mergeSort hids) h hp hq hlt
  rw [hnear] at hfar
  cases hfar

/-- A sprite that is no place is in no close pair. -/
theorem ClosePair.not_hasNaN (hids : (positions.map (·.1)).Nodup) {distance : Float}
    {a b : SpriteId} (h : ClosePair positions distance a b) {x : SpriteId × Position}
    (hx : x ∈ positions) (hid : x.1 = a ∨ x.1 = b) : ¬ x.2.HasNaN := by
  obtain ⟨-, p, q, hp, hq, hclose⟩ := h
  rcases hid with hid | hid
  · rw [List.inj_on_of_nodup_map hids hx hp hid]
    exact Position.not_hasNaN_of_isClose hclose
  · rw [List.inj_on_of_nodup_map hids hx hq hid]
    rw [Position.isClose_comm] at hclose
    exact Position.not_hasNaN_of_isClose hclose

/-- **The first close pair.** Among positions of sprites with ids of their own a pair is found
exactly if two of them are close. It is the close pair with the lowest first id and, among those,
the lowest second one, in whatever order the positions are listed. A sprite with a coordinate that
is no number is never in it. -/
theorem first_close_pair (hids : (positions.map (·.1)).Nodup) (distance : Float) :
    ((∃ pair, firstClosePair? positions distance = some pair) ↔
      ∃ x ∈ positions, ∃ y ∈ positions, x.1 ≠ y.1 ∧ x.2.isClose y.2 distance = true) ∧
    (∀ a b, firstClosePair? positions distance = some (a, b) ↔
      ClosePair positions distance a b ∧
        ∀ c d, ClosePair positions distance c d → a < c ∨ a = c ∧ b ≤ d) ∧
    (∀ l, l.Perm positions → firstClosePair? l distance = firstClosePair? positions distance) ∧
    ∀ a b, firstClosePair? positions distance = some (a, b) →
      ∀ x ∈ positions, x.2.HasNaN → x.1 ≠ a ∧ x.1 ≠ b := by
  refine ⟨?_, ?_, fun l hperm => firstClosePair?_of_perm hperm hids distance, ?_⟩
  · rw [← exists_closePair_iff]
    constructor
    · rintro ⟨⟨a, b⟩, hfound⟩
      exact ⟨a, b, (firstClosePair?_eq_some hids hfound).1⟩
    · rintro ⟨a, b, hclose⟩
      rw [← Option.isSome_iff_exists, Option.isSome_iff_ne_none]
      exact fun hnone => not_closePair_of_firstClosePair?_eq_none hids hnone a b hclose
  · intro a b
    refine ⟨firstClosePair?_eq_some hids, ?_⟩
    rintro ⟨hclose, hlowest⟩
    cases hfound : firstClosePair? positions distance with
    | none => exact absurd hclose (not_closePair_of_firstClosePair?_eq_none hids hfound a b)
    | some pair =>
      -- two lowest pairs are the same
      obtain ⟨c, d⟩ := pair
      obtain ⟨hclose', hlowest'⟩ := firstClosePair?_eq_some hids hfound
      rcases hlowest c d hclose' with hac | ⟨rfl, hbd⟩
      · rcases hlowest' a b hclose with hca | ⟨rfl, -⟩
        · exact absurd (SpriteId.lt_trans hac hca) (SpriteId.lt_irrefl _)
        · exact absurd hac (SpriteId.lt_irrefl _)
      · rcases hlowest' a b hclose with haa | ⟨-, hdb⟩
        · exact absurd haa (SpriteId.lt_irrefl _)
        · rw [show d = b from congrArg SpriteId.mk (UInt32.le_antisymm hdb hbd)]
  · intro a b hfound x hx hnan
    have hnot := (firstClosePair?_eq_some hids hfound).1.not_hasNaN hids hx
    exact ⟨fun h => hnot (Or.inl h) hnan, fun h => hnot (Or.inr h) hnan⟩

/-- Two pairs are close, listed out of order, and a sprite is nowhere. -/
theorem first_close_pair_shuffled :
    let positions : List (SpriteId × Position) := [(⟨1⟩, ⟨10.0, 10.0⟩), (⟨2⟩, ⟨500.0, 0.0⟩),
      (⟨3⟩, ⟨0.0, 0.0⟩), (⟨4⟩, ⟨505.0, 0.0⟩), (⟨5⟩, ⟨Float.nan, 0.0⟩)]
    let shuffled : List (SpriteId × Position) := [(⟨3⟩, ⟨0.0, 0.0⟩), (⟨2⟩, ⟨500.0, 0.0⟩),
      (⟨1⟩, ⟨10.0, 10.0⟩), (⟨5⟩, ⟨Float.nan, 0.0⟩), (⟨4⟩, ⟨505.0, 0.0⟩)]
    (positions.map (·.1)).Nodup ∧ shuffled.Perm positions ∧
      (∃ x ∈ positions, ∃ y ∈ positions, x.1 ≠ y.1 ∧ x.2.isClose y.2 40.0 = true) ∧
      (ClosePair positions 40.0 ⟨1⟩ ⟨3⟩ ∧
        ∀ c d, ClosePair positions 40.0 c d → ⟨1⟩ < c ∨ ⟨1⟩ = c ∧ ⟨3⟩ ≤ d) ∧
      firstClosePair? shuffled 40.0 = some (⟨1⟩, ⟨3⟩) ∧
      (⟨5⟩ : SpriteId) ≠ ⟨1⟩ ∧ (⟨5⟩ : SpriteId) ≠ ⟨3⟩ := by
  intro positions shuffled
  have hids : (positions.map (·.1)).Nodup := by decide
  have hperm : shuffled.Perm positions := by decide
  have hfound : firstClosePair? positions 40.0 = some (⟨1⟩, ⟨3⟩) := by
    rw [firstClosePair?_of_ascending (by decide)]
    decide
  obtain ⟨hexists, hlowest, horder, hnan⟩ := first_close_pair hids 40.0
  refine ⟨hids, hperm, hexists.1 ⟨_, hfound⟩, (hlowest _ _).1 hfound, ?_, ?_⟩
  · rw [horder shuffled hperm, hfound]
  · exact hnan _ _ hfound (⟨5⟩, ⟨Float.nan, 0.0⟩) (by decide) (Or.inl (by decide))

end SpriteStage
