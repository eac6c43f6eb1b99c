import SpriteStage.Proofs.Timers
import SpriteStage.Cast

/-!
# Who is on the stage

A cast is looked at through `Cast.get?`: each operation on casts has one law that says what it does
to the actor of every id (`get?_map`, `get?_modify`, `get?_insertNew`, `get?_reconcile`). A cast is
known by its actors (`ext_get?`), and its ids and positions are read off from them (`mem_ids_iff`,
`mem_positions_iff`).
-/

namespace SpriteStage

/-! ## Entries by id -/

/-- In ascending entries no id comes twice. -/
theorem Ascending.keys_nodup {α : Type} {entries : List (SpriteId × α)} (h : Ascending entries) :
    (entries.map (·.1)).Nodup := by
  refine List.Pairwise.imp ?_ h
  intro a b hlt hab
  subst hab
  exact absurd hlt (UInt32.lt_irrefl _)

theorem lookup_cons_eq {κ α : Type} [BEq κ] [LawfulBEq κ] [DecidableEq κ] (id k : κ) (b : α)
    (rest : List (κ × α)) :
    ((k, b) :: rest).lookup id = if id = k then some b else rest.lookup id := by
  rw [List.lookup_cons]
  by_cases hid : id = k
  · simp [hid]
  · rw [if_neg hid, beq_eq_false_iff_ne.2 hid]

/-- An entry is in ascending entries exactly if its id leads to it. -/
theorem Ascending.mem_iff_lookup {α : Type} {entries : List (SpriteId × α)}
    (h : Ascending entries) {id : SpriteId} {a : α} :
    (id, a) ∈ entries ↔ entries.lookup id = some a := by
  induction entries with
  | nil => simp
  | cons entry rest ih =>
    obtain ⟨k, b⟩ := entry
    obtain ⟨hk, hrest⟩ := List.nodup_cons.1 h.keys_nodup
    rw [List.mem_cons, lookup_cons_eq, ih (List.pairwise_cons.1 h).2, Prod.mk.injEq]
    by_cases hid : id = k
    · subst hid
      have hnone : rest.lookup id = none := by
        rw [List.lookup_eq_none_iff]
        intro entry hmem
        have hne : id ≠ entry.1 := by
          intro he
          exact hk (List.mem_map.2 ⟨entry, hmem, he.symm⟩)
        simpa using hne
      rw [hnone]
      simp [eq_comm]
    · simp [hid]

/-- Ascending entries are known by what is in them. -/
theorem Ascending.eq_of_mem_iff {α : Type} {l m : List (SpriteId × α)} (hl : Ascending l)
    (hm : Ascending m) (h : ∀ entry, entry ∈ l ↔ entry ∈ m) : l = m := by
  have hperm : l.Perm m :=
    (List.perm_ext_iff_of_nodup hl.keys_nodup.of_map hm.keys_nodup.of_map).2 h
  refine hperm.eq_of_pairwise ?_ (List.pairwise_map.1 hl) (List.pairwise_map.1 hm)
  intro a b _ _ hab hba
  exact absurd (SpriteId.lt_trans hab hba) (UInt32.lt_irrefl _)

/-- A new entry is found under its id, unless there was one before. All others are found as
before. -/
theorem lookup_insertActor {actors : List (SpriteId × Actor)} (h : Ascending actors)
    (id k : SpriteId) (a : Actor) :
    (insertActor id a actors).lookup k =
      if k = id then some ((actors.lookup id).getD a) else actors.lookup k := by
  induction actors with
  | nil =>
    unfold insertActor
    rw [lookup_cons_eq]
    by_cases hk : k = id <;> simp [hk]
  | cons entry rest ih =>
    obtain ⟨m, b⟩ := entry
    obtain ⟨hm, hrest⟩ := List.pairwise_cons.1 h
    unfold insertActor
    split
    · rename_i hlt
      -- the new id is below all ids there are
      have hnone : ((m, b) :: rest).lookup id = none := by
        rw [List.lookup_eq_none_iff]
        intro entry hmem
        have hbelow : id < entry.1 := by
          rcases List.mem_cons.1 hmem with rfl | hmem
          · exact hlt
          · exact SpriteId.lt_trans hlt (hm _ (List.mem_map_of_mem hmem))
        have hne : id ≠ entry.1 := by
          intro he
          rw [← he] at hbelow
          exact absurd hbelow (UInt32.lt_irrefl _)
        simpa using hne
      rw [hnone, lookup_cons_eq]
      rfl
    · split
      · rename_i hid
        subst hid
        by_cases hk : k = id <;> simp [hk]
      · rename_i hne
        rw [lookup_cons_eq, lookup_cons_eq, lookup_cons_eq, ih hrest, if_neg hne]
        by_cases hk : k = m
        · subst hk
          rw [if_pos rfl, if_pos rfl, if_neg (fun he => hne he.symm)]
        · rw [if_neg hk, if_neg hk]

/-! ## The actor of an id -/

namespace Cast

/-- What is listed is what is found. -/
theorem mem_actors_iff {c : Cast} {id : SpriteId} {a : Actor} :
    (id, a) ∈ c.actors ↔ c.get? id = some a := c.ascending.mem_iff_lookup

/-- Casts in which every id has the same actor are the same. -/
theorem ext_get? {c d : Cast} (h : ∀ id, c.get? id = d.get? id) : c = d := by
  have hactors : c.actors = d.actors := by
    apply c.ascending.eq_of_mem_iff d.ascending
    rintro ⟨id, a⟩
    rw [mem_actors_iff, mem_actors_iff, h id]
  obtain ⟨actors, ascending⟩ := c
  obtain ⟨actors', ascending'⟩ := d
  subst hactors
  rfl

/-- An id is among the ids if an actor is found under it. -/
theorem mem_ids_iff {c : Cast} {id : SpriteId} : id ∈ c.ids ↔ ∃ a, c.get? id = some a := by
  unfold ids
  rw [List.mem_map]
  constructor
  · rintro ⟨⟨k, a⟩, hmem, rfl⟩
    exact ⟨a, mem_actors_iff.1 hmem⟩
  · rintro ⟨a, ha⟩
    exact ⟨(id, a), mem_actors_iff.2 ha, rfl⟩

@[simp] theorem ids_map (c : Cast) (f : SpriteId → Actor → Actor) : (c.map f).ids = c.ids := by
  simp [ids, map, Function.comp_def]

@[simp] theorem get?_map (c : Cast) (f : SpriteId → Actor → Actor) (id : SpriteId) :
    (c.map f).get? id = (c.get? id).map (f id) := by
  show (c.actors.map fun entry => (entry.1, f entry.1 entry.2)).lookup id = _
  unfold get?
  induction c.actors with
  | nil => rfl
  | cons entry rest ih =>
    rw [List.map_cons, lookup_cons_eq, lookup_cons_eq, ih]
    by_cases hid : id = entry.1
    · subst hid
      rw [if_pos rfl, if_pos rfl]
      rfl
    · rw [if_neg hid, if_neg hid]

@[simp] theorem ids_modify (c : Cast) (id : SpriteId) (f : Actor → Actor) :
    (c.modify id f).ids = c.ids := ids_map c _

@[simp] theorem ids_setBubble (c : Cast) (id : SpriteId) (bubble : Option Bubble) :
    (c.setBubble id bubble).ids = c.ids := ids_modify c id _

@[simp] theorem ids_clearBubbles (c : Cast) : c.clearBubbles.ids = c.ids := ids_map c _

@[simp] theorem ids_resetRuns (c : Cast) : c.resetRuns.ids = c.ids := ids_map c _

/-- A change of one actor is seen under its id only. -/
theorem get?_modify (c : Cast) (id k : SpriteId) (f : Actor → Actor) :
    (c.modify id f).get? k = if k = id then (c.get? k).map f else c.get? k := by
  unfold modify
  rw [get?_map]
  by_cases hk : k = id
  · simp [hk]
  · simp [hk]

/-- It only matters what is done to the actor that is there. -/
theorem modify_congr {c : Cast} {id : SpriteId} {f g : Actor → Actor}
    (h : ∀ a, c.get? id = some a → f a = g a) : c.modify id f = c.modify id g := by
  apply ext_get?
  intro k
  rw [get?_modify, get?_modify]
  split
  · rename_i hk
    subst hk
    exact Option.map_congr h
  · rfl

/-- Where there is no actor, there is nothing to change. -/
theorem modify_of_none {c : Cast} {id : SpriteId} (h : c.get? id = none) (f : Actor → Actor) :
    c.modify id f = c := by
  apply ext_get?
  intro k
  rw [get?_modify]
  split
  · rename_i hk
    rw [hk, h]
    rfl
  · rfl

/-- A bubble that changes is seen under its id only. -/
theorem get?_setBubble (c : Cast) (id k : SpriteId) (bubble : Option Bubble) :
    (c.setBubble id bubble).get? k =
      if k = id then (c.get? k).map fun a => { a with bubble := bubble } else c.get? k :=
  get?_modify c id k _

@[simp] theorem get?_clearBubbles (c : Cast) (id : SpriteId) :
    c.clearBubbles.get? id = (c.get? id).map fun a => { a with bubble := none } := get?_map c _ id

@[simp] theorem get?_resetRuns (c : Cast) (id : SpriteId) :
    c.resetRuns.get? id = (c.get? id).map fun a => { a with hasRun := false } := get?_map c _ id

/-- A newcomer is found under its id, unless there was an actor already. -/
theorem get?_insertNew (c : Cast) (id k : SpriteId) (a : Actor) :
    (c.insertNew id a).get? k = if k = id then some ((c.get? id).getD a) else c.get? k :=
  lookup_insertActor c.ascending id k a

/-! ## Following a list of sprites -/

/-- Of the actors only those stay whose sprite is in the list. -/
theorem lookup_filter_keys {α : Type} (keep : SpriteId → Bool) (entries : List (SpriteId × α))
    (id : SpriteId) :
    (entries.filter fun entry => keep entry.1).lookup id =
      if keep id then entries.lookup id else none := by
  induction entries with
  | nil => simp
  | cons entry rest ih =>
    obtain ⟨k, a⟩ := entry
    rw [lookup_cons_eq, List.filter_cons]
    by_cases hid : id = k
    · subst hid
      by_cases hkeep : keep id = true
      · simp [hkeep]
      · simp [hkeep, ih]
    · by_cases hkeep : keep k = true
      · rw [if_pos hkeep, lookup_cons_eq, if_neg hid, if_neg hid, ih]
      · rw [if_neg hkeep, if_neg hid, ih]

/-- Newcomers are added one by one: an id that is there stays, and of several sprites with one id
the first is taken. -/
theorem get?_foldl_insertNew (sprites : List Sprite) (c : Cast) (id : SpriteId) :
    (sprites.foldl (fun c s => c.insertNew s.id (.home s)) c).get? id =
      (c.get? id).or ((sprites.find? (·.id = id)).map .home) := by
  induction sprites generalizing c with
  | nil => simp
  | cons s rest ih =>
    rw [List.foldl_cons, ih, get?_insertNew, List.find?_cons]
    by_cases hid : id = s.id
    · subst hid
      cases h : c.get? s.id with
      | none => simp
      | some a => simp
    · have hid' : ¬ s.id = id := fun he => hid he.symm
      simp [hid, hid']

/-- Survivors stay as they are, newcomers start from home, and no one else is left. -/
theorem get?_reconcile (c : Cast) (sprites : List Sprite) (id : SpriteId) :
    (c.reconcile sprites).get? id =
      (sprites.find? (·.id = id)).map fun s => (c.get? id).getD (.home s) := by
  have hstayed : (c.actors.filter fun entry => sprites.any (·.id = entry.1)).lookup id =
      if sprites.any (·.id = id) then c.get? id else none :=
    lookup_filter_keys (fun id => sprites.any (·.id = id)) c.actors id
  -- first the departed go, then the newcomers are added
  unfold reconcile
  rw [get?_foldl_insertNew]
  show ((c.actors.filter fun entry => sprites.any (·.id = entry.1)).lookup id).or _ = _
  rw [hstayed]
  cases h : sprites.find? (·.id = id) with
  | none =>
    have hnone : sprites.any (·.id = id) = false := by
      rw [List.any_eq_false]
      exact List.find?_eq_none.1 h
    simp [hnone]
  | some s =>
    have hs := List.find?_some h
    have hsome : sprites.any (·.id = id) = true :=
      List.any_eq_true.2 ⟨s, List.mem_of_find?_eq_some h, hs⟩
    rw [if_pos hsome]
    cases c.get? id with
    | none => rfl
    | some a => rfl

/-- The ids of a cast that has followed a list of sprites are those of the sprites. -/
theorem mem_ids_reconcile {c : Cast} {sprites : List Sprite} {id : SpriteId} :
    id ∈ (c.reconcile sprites).ids ↔ id ∈ sprites.map (·.id) := by
  rw [mem_ids_iff, get?_reconcile, List.mem_map]
  constructor
  · rintro ⟨a, ha⟩
    obtain ⟨s, hs, -⟩ := Option.map_eq_some_iff.1 ha
    exact ⟨s, List.mem_of_find?_eq_some hs, by simpa using List.find?_some hs⟩
  · rintro ⟨s, hs, hid⟩
    have hfound : (sprites.find? (·.id = id)).isSome := by
      rw [List.find?_isSome]
      exact ⟨s, hs, by simpa using hid⟩
    obtain ⟨found, hfound⟩ := Option.isSome_iff_exists.1 hfound
    exact ⟨_, by rw [hfound]; rfl⟩

/-- The departed are those of the cast that are not among the sprites. -/
theorem mem_departed {c : Cast} {sprites : List Sprite} {id : SpriteId} :
    id ∈ c.departed sprites ↔ id ∈ c.ids ∧ id ∉ sprites.map (·.id) := by
  unfold departed
  rw [List.mem_filter, Bool.not_eq_true', List.any_eq_false, List.mem_map, not_exists]
  simp

/-- No one departs from sprites that include all who are on the stage. -/
theorem departed_eq_nil {c : Cast} {sprites : List Sprite}
    (h : ∀ id ∈ c.ids, id ∈ sprites.map (·.id)) : c.departed sprites = [] := by
  rw [List.eq_nil_iff_forall_not_mem]
  intro id hid
  obtain ⟨hstage, hgone⟩ := mem_departed.1 hid
  exact hgone (h id hstage)

/-- A cast that has the ids of the sprites already does not change. -/
theorem get?_reconcile_of_ids {c : Cast} {sprites : List Sprite}
    (h : ∀ id, id ∈ c.ids ↔ id ∈ sprites.map (·.id)) (id : SpriteId) :
    (c.reconcile sprites).get? id = c.get? id := by
  rw [get?_reconcile]
  cases hfound : sprites.find? (·.id = id) with
  | none =>
    have hnot : id ∉ c.ids := by
      rw [h, List.mem_map]
      rintro ⟨s, hs, hid⟩
      exact absurd (List.find?_eq_none.1 hfound s hs) (by simpa using hid)
    rw [mem_ids_iff, not_exists] at hnot
    exact (Option.eq_none_iff_forall_not_mem.2 hnot).symm
  | some s =>
    have hid : id ∈ c.ids := by
      rw [h, List.mem_map]
      exact ⟨s, List.mem_of_find?_eq_some hfound, by simpa using List.find?_some hfound⟩
    obtain ⟨a, ha⟩ := mem_ids_iff.1 hid
    rw [ha]
    rfl

/-! ## Positions -/

theorem mem_positions_iff {c : Cast} {id : SpriteId} {p : Position} :
    (id, p) ∈ c.positions ↔ ∃ a, c.get? id = some a ∧ a.position = p := by
  unfold positions
  rw [List.mem_map]
  constructor
  · rintro ⟨⟨k, a⟩, hmem, heq⟩
    obtain ⟨rfl, rfl⟩ := Prod.mk.inj heq
    exact ⟨a, mem_actors_iff.1 hmem, rfl⟩
  · rintro ⟨a, ha, rfl⟩
    exact ⟨(id, a), mem_actors_iff.2 ha, rfl⟩

theorem positions_keys (c : Cast) : c.positions.map (·.1) = c.ids := by
  simp [positions, ids, Function.comp_def]

end Cast

end SpriteStage
