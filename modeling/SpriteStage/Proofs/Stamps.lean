import SpriteStage.Proofs.Clicks
import SpriteStage.Proofs.Cursor

/-!
# No click is lost and none counts twice

A playback takes a click with the stamp of the click before it for the same click and drops it, so
it remembers the stamp of the last click and nothing else does (`Run.lastStamp_after`). A studio
stamps its clicks with the time of day, which may stand still or jump, and bumps it where it has to.
The stamps rise from click to click (`Studio.stamps_rise`), so every click of a studio is carried
out, and on a sprite that is there (`Studio.every_click_counts`).
-/

namespace SpriteStage

/-! ## Deliveries -/

namespace Run

/-- The click that a call delivers. -/
def Call.click? : Call → Option Click
  | .click c => some c
  | _ => none

/-- The clicks that calls deliver, one after the other. -/
def deliveries (calls : List Call) : List Click := calls.filterMap Call.click?

theorem lastStamp_firedBy (r : Run) (fired : Fired TimedEvent) (left : Queue TimedEvent) :
    (r.firedBy fired left).playback.lastStamp = r.playback.lastStamp := by
  apply firedBy_cases (P := fun m => m.playback.lastStamp = r.playback.lastStamp)
  · rfl
  · apply tick_cases (P := fun m => m.playback.lastStamp = r.playback.lastStamp)
    · rfl
    · intro a b
      exact (Playback.alike_sync _ _).lastStamp
  · rfl
  · intro sprite bubble
    rfl

theorem lastStamp_play (r : Run) : r.play.playback.lastStamp = r.playback.lastStamp := by
  unfold play
  split
  · rfl
  · exact (Playback.alike_sync _ _).lastStamp

theorem lastStamp_stop (p : Playback) : p.stop.lastStamp = p.lastStamp := by
  unfold Playback.stop
  split <;> rfl

/-- After a click its stamp is the last one, whether it was carried out or not. -/
theorem lastStamp_click (p : Playback) (c : Click) : (p.click c).lastStamp = some c.stamp := by
  rw [Playback.click_eq_ite]
  split
  · assumption
  · rfl

/-- Only a click is remembered, and it is remembered whether it is carried out or not. -/
theorem lastStamp_call (r : Run) (c : Call) :
    (r.call c).playback.lastStamp = (c.click?.map (·.stamp)).or r.playback.lastStamp := by
  cases c with
  | edit program => rfl
  | resize viewport => rfl
  | sync => exact (Playback.alike_sync _ _).lastStamp
  | play => exact lastStamp_play r
  | stop => exact lastStamp_stop r.playback
  | setPlaying on =>
    cases on with
    | false => exact lastStamp_stop r.playback
    | true => exact lastStamp_play r
  | advance dt =>
    refine forall_drain (P := fun m => m.playback.lastStamp = r.playback.lastStamp) ?_
      (Playback.alike_sync _ _).lastStamp
    intro m fired left hm _
    rw [lastStamp_firedBy, hm]
  | click c => exact lastStamp_click r.playback c

theorem after_append (r : Run) (first second : List Call) :
    r.after (first ++ second) = (r.after first).after second := List.foldl_append

/-- **What is remembered of clicks** is the stamp of the one delivered last. -/
theorem lastStamp_after (r : Run) (calls : List Call) :
    (r.after calls).playback.lastStamp =
      ((deliveries calls).getLast?.map (·.stamp)).or r.playback.lastStamp := by
  induction calls using List.reverseRecOn with
  | nil => rfl
  | append_singleton calls c ih =>
    rw [after_append]
    show ((r.after calls).call c).playback.lastStamp = _
    rw [lastStamp_call, ih, deliveries, deliveries, List.filterMap_append]
    cases hclick : c.click? with
    | none =>
      rw [List.filterMap_cons_none hclick, List.filterMap_nil, List.append_nil]
      rfl
    | some click =>
      rw [List.filterMap_cons_some hclick, List.filterMap_nil, List.getLast?_concat]
      rfl

end Run

/-! ## What happens to a studio -/

namespace Studio

/-- What may happen to a studio: what its user does, and whatever else is done to its run, edits of
the program and other stages among it, but no other clicks. -/
inductive Happening where
  | gesture (g : Gesture)
  | call (c : Run.Call) (h : c.click? = none)

/-- The studio after a happening. -/
def undergoes (s : Studio) : Happening → Studio
  | .gesture g => s.does g
  | .call c _ => { s with run := s.run.call c }

/-- The studio after one happening and the other. -/
def through (s : Studio) (happenings : List Happening) : Studio := happenings.foldl undergoes s

/-- The click that a happening makes, with the time of day that is read for it: one on the block
under the cursor, if there is one. -/
def click? (s : Studio) : Happening → Option (UInt64 × Click)
  | .gesture (.clickBlock m) =>
    match s.sprite?, s.block? with
    | some sprite, some block => some (m.millis, ⟨sprite.id, block.instruction, s.nextStamp m⟩)
    | _, _ => none
  | _ => none

/-- The clicks that happenings make, with the times of day that are read for them. -/
def clicks (s : Studio) : List Happening → List (UInt64 × Click)
  | [] => []
  | h :: rest => (s.click? h).toList ++ (s.undergoes h).clicks rest

variable (s : Studio)

theorem clicks_append (first second : List Happening) :
    s.clicks (first ++ second) = s.clicks first ++ (s.through first).clicks second := by
  induction first generalizing s with
  | nil => rfl
  | cons h rest ih =>
    rw [List.cons_append, clicks, clicks, ih, List.append_assoc]
    rfl

/-- A click on the block under the cursor. -/
theorem click?_of_block {sprite : Sprite} {block : Block} (hsprite : s.sprite? = some sprite)
    (hblock : s.block? = some block) (m : Moment) :
    s.click? (.gesture (.clickBlock m)) =
      some (m.millis, ⟨sprite.id, block.instruction, s.nextStamp m⟩) := by
  unfold click?
  rw [hsprite, hblock]

/-- A click is a look at the program and then the delivery of the click. -/
theorem clickBlock_of_block {sprite : Sprite} {block : Block} (hsprite : s.sprite? = some sprite)
    (hblock : s.block? = some block) (m : Moment) :
    s.clickBlock m = { s with
      run := (s.run.call .sync).call
        (.click ⟨sprite.id, block.instruction, s.nextStamp m⟩)
      lastStamp := s.nextStamp m } := by
  unfold clickBlock
  rw [hsprite, hblock]
  rfl

/-- A click on the block under the cursor is a click, if there is such a block, and otherwise
nothing. -/
theorem clickBlock_cases (m : Moment) :
    (∃ sprite block, s.sprite? = some sprite ∧ s.block? = some block) ∨
      s.click? (.gesture (.clickBlock m)) = none ∧ s.clickBlock m = s := by
  unfold click? clickBlock
  cases s.sprite? with
  | none => exact Or.inr ⟨rfl, rfl⟩
  | some sprite =>
    cases s.block? with
    | none => exact Or.inr ⟨rfl, rfl⟩
    | some block => exact Or.inl ⟨sprite, block, rfl, rfl⟩

/-- What a studio undergoes in a happening: calls of its run that deliver its click, if it makes
one, and then it keeps the stamp of that click. -/
theorem exists_calls_undergoes (h : Happening) :
    ∃ calls, (s.undergoes h).run = s.run.after calls ∧
      Run.deliveries calls = ((s.click? h).map (·.2)).toList ∧
      (s.undergoes h).lastStamp = ((s.click? h).map (·.2.stamp)).getD s.lastStamp := by
  -- all edits go through a look at the program that was edited
  have hedit : ∀ (t : Studio) (program : Program), t.run = s.run → t.lastStamp = s.lastStamp →
      ∃ calls, (t.withProgram program).run = s.run.after calls ∧ Run.deliveries calls = [] ∧
        (t.withProgram program).lastStamp = s.lastStamp := by
    intro t program hrun hstamp
    refine ⟨[.edit program, .sync], ?_, rfl, hstamp⟩
    rw [← hrun]
    rfl
  have hnothing : ∃ calls, s.run = s.run.after calls ∧ Run.deliveries calls = [] ∧
      s.lastStamp = s.lastStamp := ⟨[], rfl, rfl, rfl⟩
  cases h with
  | call c h =>
    refine ⟨[c], rfl, ?_, rfl⟩
    rw [Run.deliveries, List.filterMap_cons_none h]
    rfl
  | gesture g =>
    cases g with
    | togglePlay => exact ⟨[.setPlaying !s.run.playback.isRunning], rfl, rfl, rfl⟩
    | nextSprite =>
      show ∃ calls, s.nextSprite.run = _ ∧ _ ∧ s.nextSprite.lastStamp = _
      unfold nextSprite
      dsimp only
      split <;> exact hnothing
    | addSprite => exact hedit { s with spriteIndex := _, blockIndex := 0 } _ rfl rfl
    | moveCursor steps => exact hnothing
    | cyclePalette steps =>
      show ∃ calls, (s.cyclePalette steps).run = _ ∧ _ ∧ (s.cyclePalette steps).lastStamp = _
      unfold cyclePalette
      split <;> exact hnothing
    | addBlock m =>
      show ∃ calls, (s.addBlock m).run = _ ∧ _ ∧ (s.addBlock m).lastStamp = _
      unfold addBlock
      split
      · dsimp only
        split <;> exact hedit s _ rfl rfl
      · exact hnothing
    | removeBlock =>
      show ∃ calls, s.removeBlock.run = _ ∧ _ ∧ s.removeBlock.lastStamp = _
      unfold removeBlock
      split
      · exact hedit s _ rfl rfl
      · exact hnothing
    | nudge direction =>
      show ∃ calls, (s.nudge direction).run = _ ∧ _ ∧ (s.nudge direction).lastStamp = _
      unfold nudge
      split
      · split
        · exact hedit s _ rfl rfl
        · exact hnothing
      · exact hnothing
    | clickBlock m =>
      show ∃ calls, (s.clickBlock m).run = _ ∧ _ ∧ (s.clickBlock m).lastStamp = _
      rcases s.clickBlock_cases m with ⟨sprite, block, hsprite, hblock⟩ | ⟨hnone, hsame⟩
      · rw [s.clickBlock_of_block hsprite hblock, s.click?_of_block hsprite hblock]
        exact ⟨[.sync, .click _], rfl, rfl, rfl⟩
      · rw [hnone, hsame]
        exact hnothing
    | advance dt => exact ⟨[.advance dt], rfl, rfl, rfl⟩

/-- **What the run of a studio undergoes**: calls that deliver the clicks made, each of them once
and in their order. -/
theorem exists_calls_through (happenings : List Happening) :
    ∃ calls, (s.through happenings).run = s.run.after calls ∧
      Run.deliveries calls = (s.clicks happenings).map (·.2) := by
  induction happenings generalizing s with
  | nil => exact ⟨[], rfl, rfl⟩
  | cons h rest ih =>
    obtain ⟨first, hfirst, hclick, -⟩ := s.exists_calls_undergoes h
    obtain ⟨later, hlater, hclicks⟩ := ih (s.undergoes h)
    refine ⟨first ++ later, ?_, ?_⟩
    · rw [Run.after_append, ← hfirst]
      exact hlater
    · rw [Run.deliveries] at hclick hclicks ⊢
      rw [List.filterMap_append, hclick, hclicks, clicks, List.map_append]
      cases s.click? h <;> rfl

/-! ## Stamps -/

/-- A click is stamped with the time of day, but later than the click before it. -/
theorem stamp_of_click? {h : Happening} {reading : UInt64} {c : Click}
    (hclick : s.click? h = some (reading, c)) : c.stamp = max reading (s.lastStamp + 1) := by
  unfold click? at hclick
  split at hclick
  · split at hclick
    · obtain ⟨rfl, rfl⟩ := Prod.mk.inj (Option.some.inj hclick)
      rfl
    · simp at hclick
  · simp at hclick

/-- The later one of a time of day and the moment after the last stamp, if time does not end. -/
theorem toNat_max_succ (reading : UInt64) {last : UInt64} (h : last.toNat + 1 < UInt64.size) :
    last < max reading (last + 1) ∧
      (max reading (last + 1)).toNat = max reading.toNat (last.toNat + 1) := by
  have hsucc : (last + 1).toNat = last.toNat + 1 := by
    rw [UInt64.toNat_add, show (1 : UInt64).toNat = 1 from rfl]
    exact Nat.mod_eq_of_lt h
  have hmax : (max reading (last + 1)).toNat = max reading.toNat (last.toNat + 1) := by
    rw [← hsucc]
    show (if reading ≤ last + 1 then last + 1 else reading).toNat = _
    split
    · rename_i hle
      rw [UInt64.le_iff_toNat_le] at hle
      omega
    · rename_i hlt
      rw [UInt64.le_iff_toNat_le] at hlt
      omega
  rw [UInt64.lt_iff_toNat_lt, hmax]
  exact ⟨by omega, rfl⟩

variable {s} in
/-- **The stamps rise** from click to click, whatever times of day are read, as long as there is
room above them for as many stamps as there are clicks. -/
theorem stamps_rise {happenings : List Happening}
    (hroom : s.lastStamp.toNat + (s.clicks happenings).length < UInt64.size)
    (hreadings : ∀ entry ∈ s.clicks happenings,
      entry.1.toNat + (s.clicks happenings).length < UInt64.size) :
    (∀ entry ∈ s.clicks happenings, s.lastStamp < entry.2.stamp) ∧
      ((s.clicks happenings).map (·.2.stamp)).Pairwise (· < ·) := by
  -- the room above the last stamp shrinks with each click, and so do the clicks to come
  induction happenings generalizing s with
  | nil => exact ⟨fun entry h => absurd h List.not_mem_nil, List.Pairwise.nil⟩
  | cons h rest ih =>
    obtain ⟨-, -, -, hlast⟩ := s.exists_calls_undergoes h
    cases hclick : s.click? h with
    | none =>
      rw [hclick] at hlast
      have hclicks : s.clicks (h :: rest) = (s.undergoes h).clicks rest := by
        rw [clicks, hclick]
        rfl
      have hsame : (s.undergoes h).lastStamp = s.lastStamp := hlast
      rw [hclicks] at hroom hreadings ⊢
      rw [← hsame] at hroom ⊢
      exact ih hroom hreadings
    | some entry =>
      obtain ⟨reading, c⟩ := entry
      rw [hclick] at hlast
      have hclicks : s.clicks (h :: rest) = (reading, c) :: (s.undergoes h).clicks rest := by
        rw [clicks, hclick]
        rfl
      have hstamp : (s.undergoes h).lastStamp = c.stamp := hlast
      rw [hclicks, List.length_cons] at hroom hreadings
      obtain ⟨hreading, hlater⟩ := List.forall_mem_cons.1 hreadings
      have hnext : s.lastStamp.toNat + 1 < UInt64.size := by omega
      obtain ⟨hrise, hbound⟩ := toNat_max_succ reading hnext
      rw [← s.stamp_of_click? hclick] at hrise hbound
      have hroom' : c.stamp.toNat + ((s.undergoes h).clicks rest).length < UInt64.size := by
        have hreading : reading.toNat + (((s.undergoes h).clicks rest).length + 1) < UInt64.size :=
          hreading
        omega
      have hrest := ih (s := s.undergoes h) (by rw [hstamp]; exact hroom') fun entry he => by
        have := hlater entry he
        omega
      rw [hstamp] at hrest
      rw [hclicks, List.map_cons]
      refine ⟨List.forall_mem_cons.2 ⟨hrise, fun entry he => ?_⟩,
        List.pairwise_cons.2 ⟨?_, hrest.2⟩⟩
      · exact UInt64.lt_trans hrise (hrest.1 entry he)
      · intro stamp hstamp
        obtain ⟨entry, he, rfl⟩ := List.mem_map.1 hstamp
        exact hrest.1 entry he

/-! ## Every click counts -/

variable {s} in
/-- A block under the cursor is one of a sprite's. -/
theorem exists_sprite_of_block? {block : Block} (hblock : s.block? = some block) :
    ∃ sprite, s.sprite? = some sprite := by
  rw [← Option.isSome_iff_exists]
  by_contra hnone
  rw [Option.not_isSome_iff_eq_none] at hnone
  have hscript : s.script = [] := by
    rw [script, hnone]
    rfl
  rw [block?, hscript] at hblock
  simp at hblock

/-- A studio and its run: the run has gone through calls from the beginning, and the clicks
delivered in them are those that the studio has made. -/
theorem exists_calls_from_start (program : Program) (settings : Settings) (seed : UInt64)
    (happenings : List Happening) :
    ∃ calls, ((enter program settings seed).through happenings).run =
        (Run.fresh settings.playback seed program).after calls ∧
      Run.deliveries calls = ((enter program settings seed).clicks happenings).map (·.2) := by
  obtain ⟨calls, hrun, hclicks⟩ := (enter program settings seed).exists_calls_through happenings
  -- a studio begins with a look at its program
  exact ⟨.sync :: calls, hrun, hclicks⟩

/-- If the stamps of a studio's clicks rise, the playback has not met the next one yet. -/
theorem lastStamp_ne_nextStamp {program : Program} {settings : Settings} {seed : UInt64}
    {before later : List Happening} {m : Moment} {block : Block}
    (hrise : (((enter program settings seed).clicks
      (before ++ .gesture (.clickBlock m) :: later)).map (·.2.stamp)).Pairwise (· < ·))
    (hblock : ((enter program settings seed).through before).block? = some block) :
    ((enter program settings seed).through before).run.playback.lastStamp ≠
      some (((enter program settings seed).through before).nextStamp m) := by
  obtain ⟨sprite, hsprite⟩ := exists_sprite_of_block? hblock
  obtain ⟨calls, hrun, hclicks⟩ := exists_calls_from_start program settings seed before
  rw [clicks_append, clicks, click?_of_block _ hsprite hblock, List.map_append,
    List.pairwise_append] at hrise
  obtain ⟨-, -, hbelow⟩ := hrise
  rw [hrun, Run.lastStamp_after, hclicks]
  intro hsame
  have hlast : (((enter program settings seed).clicks before).map (·.2)).getLast?.map (·.stamp) =
      some (((enter program settings seed).through before).nextStamp m) :=
    (Option.or_none (o := _)).symm.trans hsame
  -- the stamp remembered is one of those before
  obtain ⟨c, hc, hstamp⟩ := Option.map_eq_some_iff.1 hlast
  obtain ⟨entry, hentry, rfl⟩ := List.mem_map.1 (List.mem_of_getLast? hc)
  have hlt := hbelow entry.2.stamp (List.mem_map_of_mem hentry) _ List.mem_cons_self
  rw [hstamp] at hlt
  exact absurd hlt (UInt64.lt_irrefl _)

variable {s} in
/-- The sprite under the cursor is on the stage when the playback has looked at the program. -/
theorem exists_actor_of_sprite? {sprite : Sprite} (hreachable : Run.Reachable s.run)
    (hsprite : s.sprite? = some sprite) :
    ∃ actor, s.run.sync.playback.cast.get? sprite.id = some actor := by
  have hfollows : s.run.playback.Follows := Run.invariant_follows.reachable hreachable
  rw [← Cast.mem_ids_iff, (Run.attended_sync hfollows).mem_ids_iff]
  exact List.mem_map_of_mem (List.mem_of_getElem? hsprite)

/-- **No click is lost and none counts twice.**

* A playback carries out each click that is delivered to it, unless it has the stamp of the click
  delivered before it, and then nothing happens.
* The clicks of a studio, whatever else happens to it and whatever times of day are read, have
  rising stamps, as long as no time of day is so late that time ends within as many stamps as there
  are clicks. They are delivered once each. Whenever there is a block under the cursor, a click on
  it is carried out on the sprite of the block, which is there. -/
theorem every_click_counts (program : Program) (settings : Settings) (seed : UInt64) :
    (∀ (calls : List Run.Call) (c : Click),
      let r := (Run.fresh settings.playback seed program).after calls
      r.playback.click c =
        if (Run.deliveries calls).getLast?.map (·.stamp) = some c.stamp then r.playback
        else r.playback.clicked c) ∧
    ∀ happenings : List Happening,
      (∀ entry ∈ (enter program settings seed).clicks happenings, entry.1.toNat +
        ((enter program settings seed).clicks happenings).length < UInt64.size) →
      (((enter program settings seed).clicks happenings).map (·.2.stamp)).Pairwise (· < ·) ∧
      (∃ calls, ((enter program settings seed).through happenings).run =
          (Run.fresh settings.playback seed program).after calls ∧
        Run.deliveries calls = ((enter program settings seed).clicks happenings).map (·.2)) ∧
      ∀ before m later, happenings = before ++ .gesture (.clickBlock m) :: later →
        let s := (enter program settings seed).through before
        let p := s.run.sync.playback
        s.block?.isSome = true →
          ∃ sprite block actor, s.sprite? = some sprite ∧ s.block? = some block ∧
            p.cast.get? sprite.id = some actor ∧
            (s.clickBlock m).run =
              ⟨p.clicked ⟨sprite.id, block.instruction, s.nextStamp m⟩, s.run.program⟩ ∧
            (s.clickBlock m).run.playback.cast.get? sprite.id =
              some (actor.click p.viewport block.instruction p.hues).1 := by
  refine ⟨fun calls c => ?_, fun happenings hreadings => ?_⟩
  · show Playback.click _ c = _
    rw [Playback.click_eq_ite, Run.lastStamp_after]
    show (if ((Run.deliveries calls).getLast?.map (·.stamp)).or none = some c.stamp
      then _ else _) = _
    rw [Option.or_none]
  · have hroom : (enter program settings seed).lastStamp.toNat +
        ((enter program settings seed).clicks happenings).length < UInt64.size := by
      show 0 + _ < _
      cases hclicks : (enter program settings seed).clicks happenings with
      | nil => decide
      | cons entry rest =>
        have hfirst := hreadings entry (hclicks ▸ List.mem_cons_self)
        rw [hclicks] at hfirst
        omega
    obtain ⟨-, hsorted⟩ := stamps_rise hroom hreadings
    refine ⟨hsorted, exists_calls_from_start program settings seed happenings, ?_⟩
    rintro before m later rfl s p hblock
    obtain ⟨block, hblock⟩ := Option.isSome_iff_exists.1 hblock
    obtain ⟨sprite, hsprite⟩ := exists_sprite_of_block? hblock
    obtain ⟨calls, hrun, -⟩ := exists_calls_from_start program settings seed before
    have hreachable : Run.Reachable s.run := by
      show Run.Reachable ((enter program settings seed).through before).run
      rw [hrun]
      exact (Run.Reachable.fresh _ _ _).after calls
    obtain ⟨actor, hactor⟩ := exists_actor_of_sprite? hreachable hsprite
    have hnew : p.lastStamp ≠ some (s.nextStamp m) := by
      rw [show p.lastStamp = s.run.playback.lastStamp from (Playback.alike_sync _ _).lastStamp]
      exact lastStamp_ne_nextStamp hsorted hblock
    have hclicked : (s.clickBlock m).run =
        ⟨p.clicked ⟨sprite.id, block.instruction, s.nextStamp m⟩, s.run.program⟩ := by
      rw [s.clickBlock_of_block hsprite hblock m]
      show (⟨p.click _, s.run.program⟩ : Run) = _
      rw [Playback.click_eq_ite, if_neg hnew]
    refine ⟨sprite, block, actor, hsprite, hblock, hactor, hclicked, ?_⟩
    rw [hclicked, Playback.get?_clicked, if_pos rfl, hactor]
    rfl

/-- Three clicks on the first block of a script. The time of day stands still between the first two
and has gone back before the third, and there are a session and an edit in between. -/
theorem every_click_counts_encounter :
    let happenings : List Happening := [.gesture (.clickBlock ⟨1000, 0⟩),
      .gesture (.clickBlock ⟨1000, 0⟩), .gesture .togglePlay, .call (.edit .encounter) rfl,
      .gesture (.clickBlock ⟨500, 0⟩)]
    let s := (enter .encounter {} 7).through (happenings.take 4)
    (∀ entry ∈ (enter .encounter {} 7).clicks happenings, entry.1.toNat +
        ((enter .encounter {} 7).clicks happenings).length < UInt64.size) ∧
      s.block?.isSome = true ∧
      (((enter .encounter {} 7).clicks happenings).map (·.2.stamp)).Pairwise (· < ·) ∧
      ∃ sprite block actor, s.sprite? = some sprite ∧ s.block? = some block ∧
        s.run.sync.playback.cast.get? sprite.id = some actor ∧
        (s.clickBlock ⟨500, 0⟩).run = ⟨s.run.sync.playback.clicked
          ⟨sprite.id, block.instruction, s.nextStamp ⟨500, 0⟩⟩, s.run.program⟩ := by
  intro happenings s
  have hreadings : ∀ entry ∈ (enter .encounter {} 7).clicks happenings, entry.1.toNat +
      ((enter .encounter {} 7).clicks happenings).length < UInt64.size := by decide
  have hblock : s.block?.isSome = true := by decide
  obtain ⟨-, hstudio⟩ := every_click_counts .encounter {} 7
  obtain ⟨hrise, -, hcounts⟩ := hstudio happenings hreadings
  obtain ⟨sprite, block, actor, hsprite, hfound, hactor, hclicked, -⟩ :=
    hcounts (happenings.take 4) ⟨500, 0⟩ [] rfl hblock
  exact ⟨hreadings, hblock, hrise, sprite, block, actor, hsprite, hfound, hactor, hclicked⟩

end Studio
end SpriteStage
