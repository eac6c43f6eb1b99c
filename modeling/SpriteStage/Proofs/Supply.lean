import SpriteStage.Proofs.Stamps

/-!
# The hues of a run

Only a click on a color change that is carried out takes a hue from the supply, and it takes one
(`Run.hue?_call`). So the hues that clicks give to sprites are those of the run's seed in their
order, whatever else is done to the run, and the same ones as in a run that sees nothing but clicks
on color changes (`Run.hues_belong_to_seed`).
-/

namespace SpriteStage

/-- The instruction changes the color. -/
def Instruction.isColorChange : Instruction → Bool
  | .changeColor _ => true
  | _ => false

namespace Actor

variable {i : Instruction} (v : Viewport) (a : Actor) (hues : Hues)

/-- A click on a color change draws the color. -/
theorem click_of_isColorChange (h : i.isColorChange = true) :
    a.click v i hues =
      ({ a with looks := { a.looks with color := hues.draw.1 } }, hues.draw.2) := by
  cases i with
  | changeColor amount => rfl
  | _ => cases h

/-- No other click draws. -/
theorem hues_click (h : i.isColorChange = false) : (a.click v i hues).2 = hues := by
  cases i with
  | changeColor amount => cases h
  | _ => rfl

end Actor

namespace Run

variable (r : Run)

/-! ## What leaves the supply as it is -/

theorem hues_tick (session : Token) : (r.tick session).playback.hues = r.playback.hues := by
  apply tick_cases (P := fun m => m.playback.hues = r.playback.hues)
  · rfl
  · intro a b
    exact (Playback.alike_sync _ _).hues

theorem hues_firedBy (fired : Fired TimedEvent) (left : Queue TimedEvent) :
    (r.firedBy fired left).playback.hues = r.playback.hues := by
  apply firedBy_cases (P := fun m => m.playback.hues = r.playback.hues)
  · rfl
  · exact hues_tick _ _
  · rfl
  · intro sprite bubble
    rfl

/-- No hue is drawn as time passes. -/
theorem hues_advance (dt : Duration) : (r.advance dt).playback.hues = r.playback.hues := by
  refine forall_drain (P := fun m => m.playback.hues = r.playback.hues) ?_
    (Playback.alike_sync _ _).hues
  intro m fired left hm _
  rw [hues_firedBy, hm]

theorem hues_play : r.play.playback.hues = r.playback.hues := by
  unfold play
  split
  · rfl
  · exact (Playback.alike_sync _ _).hues

theorem hues_stop (p : Playback) : p.stop.hues = p.hues := by
  unfold Playback.stop
  split <;> rfl

/-! ## What a call draws -/

/-- The hue that a call gives to a sprite: the color that the sprite has after a click on a color
change. There is none if the click is the last one again, or on a sprite that is not there. -/
def hue? : Call → Option Float
  | .click c =>
    if c.instruction.isColorChange ∧ r.playback.lastStamp ≠ some c.stamp then
      ((r.call (.click c)).playback.cast.get? c.sprite).map (·.looks.color)
    else none
  | _ => none

/-- A click with a new stamp is carried out. -/
theorem playback_call_click {c : Click} (hnew : r.playback.lastStamp ≠ some c.stamp) :
    (r.call (.click c)).playback = r.playback.clicked c := by
  show r.playback.click c = _
  rw [Playback.click_eq_ite, if_neg hnew]

/-- A click on a color change draws the next hue for its sprite, if it is not the last one again and
the sprite is there. -/
theorem hue?_of_color {c : Click} (hcolor : c.instruction.isColorChange = true)
    (hnew : r.playback.lastStamp ≠ some c.stamp) (hsprite : c.sprite ∈ r.playback.cast.ids) :
    r.hue? (.click c) = some r.playback.hues.draw.1 ∧
      (r.call (.click c)).playback.hues = r.playback.hues.draw.2 := by
  obtain ⟨a, ha⟩ := Cast.mem_ids_iff.1 hsprite
  have hhues : (r.playback.clicked c).hues = ((r.playback.cast.get? c.sprite).map fun a =>
      (a.click r.playback.viewport c.instruction r.playback.hues).2).getD r.playback.hues := rfl
  rw [hue?, if_pos ⟨hcolor, hnew⟩, r.playback_call_click hnew, hhues, Playback.get?_clicked,
    if_pos rfl, ha]
  simp only [Option.map_some, Option.getD_some, Actor.click_of_isColorChange _ _ _ hcolor, and_self]

/-- Every other click gives no hue and draws none. -/
theorem hue?_of_not {c : Click} (h : c.instruction.isColorChange = false ∨
    r.playback.lastStamp = some c.stamp ∨ c.sprite ∉ r.playback.cast.ids) :
    r.hue? (.click c) = none ∧ (r.call (.click c)).playback.hues = r.playback.hues := by
  have hcall : (r.call (.click c)).playback = r.playback.click c := rfl
  have hhues : (r.playback.clicked c).hues = ((r.playback.cast.get? c.sprite).map fun a =>
      (a.click r.playback.viewport c.instruction r.playback.hues).2).getD r.playback.hues := rfl
  rw [hue?, hcall, Playback.click_eq_ite]
  by_cases hlast : r.playback.lastStamp = some c.stamp
  · rw [if_neg (fun hnew => hnew.2 hlast), if_pos hlast]
    exact ⟨rfl, rfl⟩
  · rw [if_neg hlast, hhues, Playback.get?_clicked, if_pos rfl]
    cases ha : r.playback.cast.get? c.sprite with
    | none =>
      split <;> exact ⟨rfl, rfl⟩
    | some a =>
      have hsprite : c.sprite ∈ r.playback.cast.ids := Cast.mem_ids_iff.2 ⟨a, ha⟩
      have hcolor : c.instruction.isColorChange = false :=
        h.elim id fun h => absurd hsprite (h.elim (absurd · hlast) id)
      rw [if_neg (fun hnew => by rw [hcolor] at hnew; exact Bool.false_ne_true hnew.1),
        Option.map_some, Actor.hues_click _ _ _ hcolor]
      exact ⟨rfl, rfl⟩

/-- **What a call draws.** It gives the next hue to a sprite and takes it from the supply, or it
gives none and leaves the supply as it is. -/
theorem hue?_call (c : Call) :
    r.hue? c = some r.playback.hues.draw.1 ∧ (r.call c).playback.hues = r.playback.hues.draw.2 ∨
      r.hue? c = none ∧ (r.call c).playback.hues = r.playback.hues := by
  cases c with
  | click c =>
    by_cases hcolor : c.instruction.isColorChange = true
    · by_cases hlast : r.playback.lastStamp = some c.stamp
      · exact Or.inr (r.hue?_of_not (Or.inr (Or.inl hlast)))
      · by_cases hsprite : c.sprite ∈ r.playback.cast.ids
        · exact Or.inl (r.hue?_of_color hcolor hlast hsprite)
        · exact Or.inr (r.hue?_of_not (Or.inr (Or.inr hsprite)))
    · exact Or.inr (r.hue?_of_not (Or.inl (Bool.not_eq_true _ ▸ hcolor)))
  | edit program => exact Or.inr ⟨rfl, rfl⟩
  | resize viewport => exact Or.inr ⟨rfl, rfl⟩
  | sync => exact Or.inr ⟨rfl, (Playback.alike_sync _ _).hues⟩
  | play => exact Or.inr ⟨rfl, r.hues_play⟩
  | stop => exact Or.inr ⟨rfl, hues_stop _⟩
  | setPlaying on =>
    cases on with
    | false => exact Or.inr ⟨rfl, hues_stop _⟩
    | true => exact Or.inr ⟨rfl, r.hues_play⟩
  | advance dt => exact Or.inr ⟨rfl, r.hues_advance dt⟩

/-! ## What a run draws -/

/-- The hues that calls give to sprites, one after the other. -/
def huesOf (r : Run) : List Call → List Float
  | [] => []
  | c :: rest => (r.hue? c).toList ++ (r.call c).huesOf rest

theorem huesOf_append (first second : List Call) :
    r.huesOf (first ++ second) = r.huesOf first ++ (r.after first).huesOf second := by
  induction first generalizing r with
  | nil => rfl
  | cons c rest ih =>
    rw [List.cons_append, huesOf, huesOf, ih, List.append_assoc]
    rfl

/-- The hues of a run are the next ones of its supply. -/
theorem huesOf_eq (calls : List Call) :
    r.huesOf calls = (List.range' r.playback.hues.drawn (r.huesOf calls).length).map
      (Hues.hueAt r.playback.hues.seed) := by
  induction calls generalizing r with
  | nil => rfl
  | cons c rest ih =>
    have hrest := ih (r.call c)
    rw [huesOf]
    rcases r.hue?_call c with ⟨hhue, hhues⟩ | ⟨hhue, hhues⟩
    · rw [hhues] at hrest
      rw [hhue, Option.toList_some, List.singleton_append, List.length_cons, List.range'_succ,
        List.map_cons]
      exact congrArg _ hrest
    · rw [hhues] at hrest
      rw [hhue]
      exact hrest

/-! ## Nothing but clicks on color changes -/

/-- Clicks on color changes, all on sprites of the program and none with the stamp of the one before
it. -/
structure ColorClicks (program : Program) (clicks : List Click) : Prop where
  colors : ∀ c ∈ clicks, c.instruction.isColorChange = true
  sprites : ∀ c ∈ clicks, c.sprite ∈ program.sprites.map (·.id)
  stamps : clicks.IsChain (·.stamp ≠ ·.stamp)

/-- Every click of such a sequence gives a hue. -/
theorem length_huesOf_clicks {clicks : List Click}
    (hcolors : ∀ c ∈ clicks, c.instruction.isColorChange = true)
    (hsprites : ∀ c ∈ clicks, c.sprite ∈ r.playback.cast.ids)
    (hstamps : clicks.IsChain (·.stamp ≠ ·.stamp))
    (hfirst : ∀ c ∈ clicks.head?, r.playback.lastStamp ≠ some c.stamp) :
    (r.huesOf (clicks.map .click)).length = clicks.length := by
  induction clicks generalizing r with
  | nil => rfl
  | cons c rest ih =>
    obtain ⟨hcolor, hcolors⟩ := List.forall_mem_cons.1 hcolors
    obtain ⟨hsprite, hsprites⟩ := List.forall_mem_cons.1 hsprites
    have hnew : r.playback.lastStamp ≠ some c.stamp := hfirst c rfl
    obtain ⟨hhue, -⟩ := r.hue?_of_color hcolor hnew hsprite
    have hrest := ih (r.call (.click c)) hcolors ?_ hstamps.of_cons ?_
    · rw [List.map_cons, huesOf, hhue, List.length_append, hrest, List.length_cons]
      exact Nat.add_comm _ _
    · intro d hd
      rw [r.playback_call_click hnew]
      exact (Cast.ids_modify _ _ _).symm ▸ hsprites d hd
    · intro d hd
      rw [r.playback_call_click hnew]
      intro hsame
      exact (List.isChain_cons.1 hstamps).1 d hd (Option.some.inj hsame)

/-- In a run that sees nothing but such clicks every one of them gives a hue. -/
theorem length_huesOf_alone {program : Program} {clicks : List Click}
    (h : ColorClicks program clicks) (settings : PlaybackSettings) (seed : UInt64) :
    ((fresh settings seed program).huesOf (.sync :: clicks.map .click)).length = clicks.length := by
  have hfollows : (fresh settings seed program).playback.Follows :=
    invariant_follows.fresh settings seed program
  refine length_huesOf_clicks _ h.colors (fun c hc => ?_) h.stamps fun c _ => ?_
  · exact ((attended_sync hfollows).mem_ids_iff c.sprite).2 (h.sprites c hc)
  · show (Playback.sync _ _).lastStamp ≠ _
    rw [(Playback.alike_sync _ _).lastStamp]
    exact (Option.some_ne_none _).symm

/-- **Hues belong to the seed.** The `k`-th hue that a click gives to a sprite is the `k`-th one of
the seed, whatever else is done to the run. It is the `k`-th hue of every run of the same seed that
sees nothing but clicks on color changes, each of which gives a hue. -/
theorem hues_belong_to_seed {program alone : Program} {clicks : List Click}
    (h : ColorClicks alone clicks) (seed : UInt64) (settings settings' : PlaybackSettings)
    (calls : List Call) :
    let hues := (fresh settings seed program).huesOf calls
    let hues' := (fresh settings' seed alone).huesOf (.sync :: clicks.map .click)
    (∀ k, k < hues.length → hues[k]? = some (Hues.hueAt seed k)) ∧
      hues'.length = clicks.length ∧
      ∀ k, k < hues.length → k < clicks.length → hues[k]? = hues'[k]? := by
  -- in every run of the seed
  have hhue : ∀ settings program calls k,
      k < ((fresh settings seed program).huesOf calls).length →
        ((fresh settings seed program).huesOf calls)[k]? = some (Hues.hueAt seed k) := by
    intro settings program calls k hk
    rw [huesOf_eq, List.getElem?_map, List.getElem?_range' hk, Option.map_some]
    show some (Hues.hueAt seed (0 + 1 * k)) = _
    rw [Nat.one_mul, Nat.zero_add]
  intro hues hues'
  have hlength : hues'.length = clicks.length := length_huesOf_alone h settings' seed
  refine ⟨hhue settings program calls, hlength, fun k hk hk' => ?_⟩
  rw [← hlength] at hk'
  exact (hhue _ _ _ k hk).trans (hhue _ _ _ k hk').symm

/-- Two sprites meet in a session, and there are clicks around it. Of the clicks on color changes
one comes twice and one is on a sprite that is not there. -/
theorem hues_belong_to_seed_encounter :
    let before : List Call := [.sync, .click ⟨⟨1⟩, .changeColor none, 5⟩,
      .click ⟨⟨1⟩, .changeColor none, 5⟩, .click ⟨⟨9⟩, .changeColor none, 6⟩, .play]
    let later : List Call := [.click ⟨⟨2⟩, .changeColor (some 25.0), 7⟩,
      .click ⟨⟨2⟩, .setColor none, 8⟩, .stop]
    let clicks : List Click := [⟨⟨2⟩, .changeColor none, 0⟩, ⟨⟨2⟩, .changeColor none, 1⟩]
    let hues := (fresh {} 7 .encounter).huesOf (before ++ .advance (.ofMillis 700) :: later)
    let hues' := (fresh {} 7 .encounter).huesOf (.sync :: clicks.map .click)
    ColorClicks .encounter clicks ∧ hues.length = 2 ∧ hues = hues' := by
  intro before later clicks hues hues'
  have hclicks : ColorClicks .encounter clicks := ⟨by decide, by decide, by decide⟩
  obtain ⟨-, hlength', hsame⟩ :=
    hues_belong_to_seed hclicks 7 {} {} (before ++ .advance (.ofMillis 700) :: later)
  have hlength : hues.length = 2 := by
    let r := (fresh {} 7 .encounter).after before
    have hbefore : ((fresh {} 7 .encounter).huesOf before).length = 1 := by decide +kernel
    have hstaged : Staged r :=
      ⟨by decide, invariant_follows.reachable ((Reachable.fresh _ _ _).after before), by decide⟩
    -- the swap leaves both sprites on the stage
    have hsprite : ⟨2⟩ ∈ (r.advance (.ofMillis 700)).playback.cast.ids := by
      rw [(hstaged.advance _).mem_ids_iff, ids_advance]
      decide
    have hnew : (r.call (.advance (.ofMillis 700))).playback.lastStamp ≠ some 7 := by
      rw [lastStamp_call]
      decide
    obtain ⟨hhue, -⟩ := (r.advance (.ofMillis 700)).hue?_of_color
      (c := ⟨⟨2⟩, .changeColor (some 25.0), 7⟩) rfl hnew hsprite
    show ((fresh {} 7 .encounter).huesOf (before ++ .advance (.ofMillis 700) :: later)).length = 2
    rw [huesOf_append, List.length_append, hbefore]
    show 1 + (((r.advance (.ofMillis 700)).hue? _).toList ++ []).length = 2
    rw [hhue]
    rfl
  refine ⟨hclicks, hlength, List.ext_getElem? fun k => ?_⟩
  by_cases hk : k < 2
  · exact hsame k (hlength ▸ hk) hk
  · have hk' : hues'.length ≤ k := hlength'.trans_le (not_lt.1 hk)
    rw [List.getElem?_eq_none (by omega), List.getElem?_eq_none hk']

end Run

end SpriteStage
