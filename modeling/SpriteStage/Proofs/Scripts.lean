import SpriteStage.Proofs.Ids

/-!
# Programs by their scripts

Edits of blocks and exchanges of scripts change nothing but scripts. So a program is looked at as
what is left without its scripts (`Program.bare`) and the script of each id (`Program.script?`):
where ids come once, it is known by these two (`Program.eq_of_bare`), and a new script has one law
on each of them (`Program.bare_setScript`, `Program.script?_setScript`).
-/

namespace SpriteStage

namespace Program

/-! ## The two views -/

/-- The program without its scripts. -/
def bare (p : Program) : Program :=
  { p with sprites := p.sprites.map fun s => { s with script := [] } }

/-- Where ids come once, a sprite is the one that its id leads to. -/
theorem sprite?_of_mem {p : Program} (hids : (p.sprites.map (·.id)).Nodup) {s : Sprite}
    (hs : s ∈ p.sprites) : p.sprite? s.id = some s := by
  unfold sprite?
  cases hfound : p.sprites.find? (·.id = s.id) with
  | none => exact absurd (List.find?_eq_none.1 hfound s hs) (by simp)
  | some t =>
    have hid : t.id = s.id := by simpa using List.find?_some hfound
    rw [List.inj_on_of_nodup_map hids (List.mem_of_find?_eq_some hfound) hs hid]

/-- Where ids come once, each sprite is found with its own script. -/
theorem script?_of_mem {p : Program} (hids : (p.sprites.map (·.id)).Nodup) {s : Sprite}
    (hs : s ∈ p.sprites) : p.script? s.id = some s.script := by
  rw [script?, sprite?_of_mem hids hs, Option.map_some]

/-- No script is found for an id exactly if no sprite has it. -/
theorem script?_eq_none_iff {p : Program} {id : SpriteId} :
    p.script? id = none ↔ id ∉ p.sprites.map (·.id) := by
  rw [script?, Option.map_eq_none_iff, sprite?, List.find?_eq_none, List.mem_map]
  simp

theorem exists_script?_of_mem {p : Program} {id : SpriteId} (h : id ∈ p.sprites.map (·.id)) :
    ∃ script, p.script? id = some script := by
  rw [← Option.ne_none_iff_exists', Ne, script?_eq_none_iff, not_not]
  exact h

theorem ids_eq_of_bare {p q : Program} (h : p.bare = q.bare) :
    p.sprites.map (·.id) = q.sprites.map (·.id) := by
  have hids := congrArg (fun r : Program => r.sprites.map (·.id)) h
  simpa only [bare, List.map_map, Function.comp_def] using hids

/-- Where ids come once, the sprites are put together again from the two views. -/
theorem sprites_eq_map_bare {p : Program} (hids : (p.sprites.map (·.id)).Nodup) :
    p.sprites = p.bare.sprites.map fun s => { s with script := (p.script? s.id).getD [] } := by
  rw [bare, List.map_map]
  conv_lhs => rw [← List.map_id p.sprites]
  apply List.map_congr_left
  intro s hs
  rw [Function.comp, script?_of_mem hids hs]
  rfl

/-- **A program is known by its scripts** and what is left without them, if its ids come once. -/
theorem eq_of_bare {p q : Program} (hids : (p.sprites.map (·.id)).Nodup) (hbare : p.bare = q.bare)
    (hscripts : ∀ id, p.script? id = q.script? id) : p = q := by
  have hids' : (q.sprites.map (·.id)).Nodup := ids_eq_of_bare hbare ▸ hids
  have hsprites : p.sprites = q.sprites := by
    rw [sprites_eq_map_bare hids, sprites_eq_map_bare hids', hbare]
    simp only [hscripts]
  have hstage : p.bare.stage = q.bare.stage := by rw [hbare]
  obtain ⟨stage, sprites⟩ := p
  obtain ⟨stage', sprites'⟩ := q
  exact congrArg₂ Program.mk hstage hsprites

/-! ## A new script -/

/-- A new script changes nothing but scripts. -/
theorem bare_setScript (p : Program) (id : SpriteId) (script : Script) :
    (p.setScript id script).bare = p.bare := by
  have hsprites : ∀ sprites : List Sprite,
      (withScript id script sprites).map (fun s => { s with script := [] }) =
        sprites.map fun s => { s with script := [] } := by
    intro sprites
    induction sprites with
    | nil => rfl
    | cons s rest ih =>
      rw [withScript]
      split
      · rfl
      · rw [List.map_cons, List.map_cons, ih]
  exact congrArg (Program.mk p.stage) (hsprites p.sprites)

/-- The script of an id is the new one, if it was set for this id. -/
theorem script?_setScript (p : Program) (id k : SpriteId) (script : Script) :
    (p.setScript id script).script? k =
      if k = id then (p.script? id).map (fun _ => script) else p.script? k := by
  unfold script? sprite? setScript
  induction p.sprites with
  | nil => simp [withScript]
  | cons s rest ih =>
    rw [withScript]
    by_cases hid : s.id = id
    · by_cases hk : k = id
      · simp [hid, hk]
      · have hne : ¬ id = k := fun h => hk h.symm
        simp [hid, hk, hne]
    · rw [if_neg hid]
      by_cases hs : s.id = k
      · have hk : ¬ k = id := fun h => hid (hs.trans h)
        simp [hs, hk]
      · simp only [List.find?_cons, hs, hid, decide_false]
        exact ih

/-- The script that a sprite has already makes no difference. -/
theorem setScript_self {p : Program} {id : SpriteId} {script : Script}
    (h : p.script? id = some script) : p.setScript id script = p := by
  obtain ⟨s, hs, hscript⟩ := Option.map_eq_some_iff.1 h
  have hsprites : ∀ sprites : List Sprite, sprites.find? (·.id = id) = some s →
      withScript id script sprites = sprites := by
    intro sprites hfound
    induction sprites with
    | nil => rfl
    | cons t rest ih =>
      rw [withScript]
      by_cases hid : t.id = id
      · rw [List.find?_cons_of_pos (by simpa using hid)] at hfound
        cases hfound
        rw [if_pos hid, ← hscript]
      · rw [List.find?_cons_of_neg (by simpa using hid)] at hfound
        rw [if_neg hid, ih hfound]
  exact congrArg (Program.mk p.stage) (hsprites p.sprites hs)

/-- Where ids come once, a new script goes to the one sprite of that id, where it stands. -/
theorem setScript_of_append {p : Program} (hids : (p.sprites.map (·.id)).Nodup)
    {left right : List Sprite} {s : Sprite} (hsprites : p.sprites = left ++ s :: right)
    (script : Script) :
    p.setScript s.id script =
      { p with sprites := left ++ { s with script := script } :: right } := by
  rw [hsprites, List.map_append, List.map_cons] at hids
  have hleft : s.id ∉ left.map (·.id) := fun hmem =>
    (List.nodup_append.1 hids).2.2 _ hmem _ List.mem_cons_self rfl
  unfold setScript
  rw [hsprites]
  congr 1
  clear hsprites hids
  induction left with
  | nil => rw [List.nil_append, withScript, if_pos rfl, List.nil_append]
  | cons t rest ih =>
    rw [List.map_cons, List.mem_cons, not_or] at hleft
    rw [List.cons_append, withScript, if_neg (Ne.symm hleft.1), ih hleft.2, List.cons_append]

end Program

end SpriteStage
