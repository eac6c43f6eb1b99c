import SpriteStage.Proofs.Sessions

/-!
# What a script says and when

The bubbles of a script follow each other (`Script.speeches`), each for its seconds
(`speechLength`), and begin where the one before ended (`beginsAt`). The cues of a sprite are read
as a list whose past is carried out and whose rest is to come: what is shown after the past is the
bubble whose window holds the present time (`shown_eq_some_iff`). All cues of a sprite are in the
queue, in their order, however the cues of others lie between them (`filter_queueCues`).
-/

namespace SpriteStage

/-! ## Speeches -/

/-- The seconds that count: the default for those that are absent, zero or no number. -/
def secondsOr (default : Float) : Option Float → Float
  | none => default
  | some s => if s == 0.0 || s.isNaN then default else s

/-- How long a bubble stays. Only a positive number of seconds is any time at all, and more than the
range is the longest time. -/
def speechLength (default : Float) (seconds : Option Float) : Duration :=
  if 0.0 < secondsOr default seconds then
    (Duration.ofSeconds? (secondsOr default seconds)).getD .longest
  else .zero

/-- A bubble stays for the length of its speech. -/
theorem bubbleLength_eq (default : Float) (seconds : Option Float) :
    bubbleLength default seconds = speechLength default seconds := by
  have hseconds : bubbleLength default seconds =
      (Duration.ofSeconds? (greatest (secondsOr default seconds) 0.0)).getD .longest := by
    cases seconds <;> rfl
  have hnan : (0.0 : Float).isNaN = false := by decide
  have hzero : Duration.ofSeconds? 0.0 = some .zero := by decide +kernel
  rw [hseconds, speechLength, greatest, hnan, if_neg Bool.false_ne_true]
  split
  · rfl
  · rw [hzero]
    rfl

/-- A bubble and how long it stays. -/
structure Speech where
  bubble : Bubble
  length : Duration

/-- The bubbles of a script, in their order. -/
def Script.speeches (default : Float) (s : Script) : List Speech :=
  s.filterMap fun b =>
    match b.instruction with
    | .bubble kind message seconds =>
      some ⟨⟨kind, message.getD ""⟩, speechLength default seconds⟩
    | _ => none

/-- When the speech of that number begins, counted from zero: the first one at `start`, and every
other one when the one before it has ended. -/
def beginsAt (start : Duration) (speeches : List Speech) (i : ℕ) : Duration :=
  ((speeches.take i).map (·.length)).foldl (· + ·) start

theorem le_beginsAt (start : Duration) (speeches : List Speech) (i : ℕ) :
    start ≤ beginsAt start speeches i := by
  induction speeches generalizing start i with
  | nil => simp [beginsAt, Duration.le_iff]
  | cons speech rest ih =>
    cases i with
    | zero => exact Nat.le_refl _
    | succ i => exact Nat.le_trans (Duration.le_add_right start speech.length) (ih _ i)

/-! ## Cues -/

/-- The cues of speeches of which the first begins at `start`. -/
def cuesFrom (sprite : SpriteId) (start : Duration) : List Speech → List Cue
  | [] => []
  | speech :: rest =>
    ⟨start, sprite, some speech.bubble⟩ :: ⟨start + speech.length, sprite, none⟩ ::
      cuesFrom sprite (start + speech.length) rest

/-- The cues of a script are those of its speeches. -/
theorem Script.cues_eq (sprite : SpriteId) (default : Float) (start : Duration) (s : Script) :
    Script.cues sprite default start s = cuesFrom sprite start (s.speeches default) := by
  induction s generalizing start with
  | nil => rfl
  | cons b rest ih =>
    obtain ⟨id, instruction⟩ := b
    cases instruction with
    | bubble kind message seconds =>
      rw [Script.cues, ih, bubbleLength_eq]
      rfl
    | _ => exact ih start

/-- The cues of a sprite are those of its speeches, from time zero. -/
theorem Sprite.cues_eq (s : Sprite) (default : Float) :
    s.cues default = cuesFrom s.id .zero (s.script.speeches default) := Script.cues_eq _ _ _ _

theorem sprite_of_mem_cuesFrom {sprite : SpriteId} {start : Duration} {speeches : List Speech}
    {cue : Cue} (h : cue ∈ cuesFrom sprite start speeches) : cue.sprite = sprite := by
  induction speeches generalizing start with
  | nil => simp [cuesFrom] at h
  | cons speech rest ih =>
    rcases List.mem_cons.1 h with rfl | h
    · rfl
    · rcases List.mem_cons.1 h with rfl | h
      · rfl
      · exact ih h

theorem le_time_of_mem_cuesFrom {sprite : SpriteId} {start : Duration} {speeches : List Speech}
    {cue : Cue} (h : cue ∈ cuesFrom sprite start speeches) : start ≤ cue.time := by
  induction speeches generalizing start with
  | nil => simp [cuesFrom] at h
  | cons speech rest ih =>
    have hstop := Duration.le_add_right start speech.length
    rcases List.mem_cons.1 h with rfl | h
    · exact Nat.le_refl _
    · rcases List.mem_cons.1 h with rfl | h
      · exact hstop
      · exact Nat.le_trans hstop (ih h)

/-- The cues of speeches are in the order of their times. -/
theorem pairwise_cuesFrom (sprite : SpriteId) (start : Duration) (speeches : List Speech) :
    (cuesFrom sprite start speeches).Pairwise fun a b => a.time ≤ b.time := by
  induction speeches generalizing start with
  | nil => exact List.Pairwise.nil
  | cons speech rest ih =>
    have hstop := Duration.le_add_right start speech.length
    have hlater : ∀ cue ∈ cuesFrom sprite (start + speech.length) rest,
        start + speech.length ≤ cue.time := fun cue hcue => le_time_of_mem_cuesFrom hcue
    rw [cuesFrom, List.pairwise_cons, List.pairwise_cons]
    refine ⟨?_, hlater, ih _⟩
    intro cue hcue
    rcases List.mem_cons.1 hcue with rfl | hcue
    · exact hstop
    · exact Nat.le_trans hstop (hlater cue hcue)

/-! ## Windows -/

/-- What is shown after cues have been carried out, with nothing shown before. -/
def shown (cues : List Cue) : Option Bubble := cues.foldl (fun _ cue => cue.bubble) none

/-- The last cue says what is shown. -/
theorem shown_concat (cues : List Cue) (cue : Cue) : shown (cues ++ [cue]) = cue.bubble := by
  rw [shown, List.foldl_append]
  rfl

/-- **What is shown is the bubble whose window holds the present time.** The cues of the past have
been carried out and the rest is to come. -/
theorem shown_eq_some_iff {sprite : SpriteId} {t now start : Duration} {speeches : List Speech}
    {past rest : List Cue} (hcues : cuesFrom sprite start speeches = past ++ rest)
    (hpast : ∀ cue ∈ past, t + cue.time ≤ now) (hrest : ∀ cue ∈ rest, now < t + cue.time)
    (b : Bubble) :
    shown past = some b ↔ ∃ i, ∃ h : i < speeches.length, speeches[i].bubble = b ∧
      t + beginsAt start speeches i ≤ now ∧ now < t + beginsAt start speeches (i + 1) := by
  -- on the speeches: of the first one none, one or both of its cues are past
  induction speeches generalizing start past with
  | nil =>
    obtain ⟨rfl, -⟩ := List.append_eq_nil_iff.1 hcues.symm
    simp [shown]
  | cons speech speeches ih =>
    rw [cuesFrom] at hcues
    cases past with
    | nil =>
      -- the first bubble is still to come, and so are all others
      obtain rfl : _ = rest := hcues
      have hnow : now < t + start := hrest _ List.mem_cons_self
      constructor
      · intro h
        simp [shown] at h
      · rintro ⟨i, -, -, hle, -⟩
        have hlater := Duration.add_le_add_left (le_beginsAt start (speech :: speeches) i) t
        exact absurd (Nat.le_trans hlater hle) (Nat.not_le_of_lt hnow)
    | cons first past =>
      obtain ⟨hfirst, hcues⟩ := List.cons.inj hcues
      have hbegun : t + start ≤ now := by
        rw [← hfirst] at hpast
        exact hpast _ List.mem_cons_self
      cases past with
      | nil =>
        -- the first bubble is shown, and all others are still to come
        obtain rfl : _ = rest := hcues
        have hnow : now < t + (start + speech.length) := hrest _ List.mem_cons_self
        rw [← hfirst]
        constructor
        · intro h
          exact ⟨0, Nat.succ_pos _, Option.some.inj h, hbegun, hnow⟩
        · rintro ⟨i, hi, hb, hle, -⟩
          cases i with
          | zero => exact congrArg some hb
          | succ i =>
            have hlater := Duration.add_le_add_left
              (le_beginsAt (start + speech.length) speeches i) t
            exact absurd (Nat.le_trans hlater hle) (Nat.not_le_of_lt hnow)
      | cons second past =>
        -- the first bubble is over
        obtain ⟨hsecond, hcues⟩ := List.cons.inj hcues
        have hover : t + (start + speech.length) ≤ now := by
          rw [← hsecond] at hpast
          exact hpast _ (List.mem_cons_of_mem _ List.mem_cons_self)
        have hshown : shown (first :: second :: past) = shown past := by
          rw [← hsecond]
          rfl
        rw [hshown, ih hcues fun cue hcue =>
          hpast cue (List.mem_cons_of_mem _ (List.mem_cons_of_mem _ hcue))]
        constructor
        · rintro ⟨i, hi, hb, hle, hlt⟩
          exact ⟨i + 1, Nat.succ_lt_succ hi, hb, hle, hlt⟩
        · rintro ⟨i, hi, hb, hle, hlt⟩
          cases i with
          | zero => exact absurd hover (Nat.not_le_of_lt hlt)
          | succ i => exact ⟨i, Nat.lt_of_succ_lt_succ hi, hb, hle, hlt⟩

/-! ## Cues in the queue -/

/-- The timer changes the bubble of that sprite. -/
def Timer.speaksFor (id : SpriteId) (t : Timer TimedEvent) : Bool :=
  match t.event with
  | .bubble sprite _ => decide (sprite = id)
  | _ => false

/-- The cues of a sprite on a sheet of sprites with their own ids are all its cues, in their
order. -/
theorem filter_cueSheet {sprites : List Sprite} (hids : (sprites.map (·.id)).Nodup) {s : Sprite}
    (hs : s ∈ sprites) (default : Float) :
    (cueSheet sprites default).filter (·.sprite = s.id) = s.cues default := by
  have hown : ∀ (u : Sprite), ∀ cue ∈ u.cues default, cue.sprite = u.id := by
    intro u cue hcue
    rw [Sprite.cues_eq] at hcue
    exact sprite_of_mem_cuesFrom hcue
  unfold cueSheet
  induction sprites with
  | nil => exact absurd hs List.not_mem_nil
  | cons u rest ih =>
    obtain ⟨hu, hrest⟩ := List.nodup_cons.1 hids
    rw [List.flatMap_cons, List.filter_append]
    rcases List.mem_cons.1 hs with rfl | hs
    · have hall : (s.cues default).filter (·.sprite = s.id) = s.cues default := by
        rw [List.filter_eq_self]
        intro cue hcue
        simpa using hown s cue hcue
      have hnone : (rest.flatMap (·.cues default)).filter (·.sprite = s.id) = [] := by
        rw [List.filter_eq_nil_iff]
        intro cue hcue
        obtain ⟨v, hv, hcue⟩ := List.mem_flatMap.1 hcue
        have hne : v.id ≠ s.id := fun he => hu (List.mem_map.2 ⟨v, hv, he⟩)
        simpa [hown v cue hcue] using hne
      rw [hall, hnone, List.append_nil]
    · have hnone : (u.cues default).filter (·.sprite = s.id) = [] := by
        rw [List.filter_eq_nil_iff]
        intro cue hcue
        have hne : u.id ≠ s.id := fun he => hu (List.mem_map.2 ⟨s, hs, he.symm⟩)
        simpa [hown u cue hcue] using hne
      rw [hnone, List.nil_append]
      exact ih hrest hs

/-- Cues whose times are in order come in that order after all that was pending for their
sprite. -/
theorem filter_queueCues {id : SpriteId} {start : Duration} {schedule : Token} {cues : List Cue}
    (hsorted : (cues.filter (·.sprite = id)).Pairwise fun a b => a.time ≤ b.time)
    {q : Queue TimedEvent}
    (hq : ∀ u ∈ q.timers, u.speaksFor id = true →
      ∀ cue ∈ cues.filter (·.sprite = id), u.due ≤ start + cue.time) :
    (Playback.queueCues start schedule cues q).timers.filter (·.speaksFor id) =
      q.timers.filter (·.speaksFor id) ++
        (cues.filter (·.sprite = id)).map (Playback.cueTimer start schedule) := by
  unfold Playback.queueCues
  -- the queue grows by one cue after the other, so both hypotheses are kept for the rest
  induction cues generalizing q with
  | nil => simp
  | cons cue rest ih =>
    rw [List.foldl_cons]
    by_cases hid : cue.sprite = id
    · rw [List.filter_cons_of_pos (by simpa using hid)] at hsorted hq ⊢
      obtain ⟨hcue, hrest⟩ := List.pairwise_cons.1 hsorted
      have hspeaks : (Playback.cueTimer start schedule cue).speaksFor id = true := by
        simpa [Playback.cueTimer, Timer.speaksFor] using hid
      rw [ih hrest]
      · rw [Queue.timers_schedule]
        show (insertTimer (Playback.cueTimer start schedule cue) q.timers).filter _ ++ _ = _
        rw [filter_insertTimer_of_last hspeaks q.inOrder fun u hu hkeep =>
          hq u hu hkeep cue List.mem_cons_self, List.append_assoc]
        rfl
      · intro u hu hkeep later hlater
        rcases Queue.mem_schedule.1 hu with rfl | hu
        · exact Duration.add_le_add_left (hcue later hlater) start
        · exact hq u hu hkeep later (List.mem_cons_of_mem _ hlater)
    · rw [List.filter_cons_of_neg (by simpa using hid)] at hsorted hq ⊢
      have hspeaks : (Playback.cueTimer start schedule cue).speaksFor id = false := by
        simpa [Playback.cueTimer, Timer.speaksFor] using hid
      rw [ih hsorted]
      · rw [Queue.timers_schedule]
        congr 1
        exact filter_insertTimer_of_false hspeaks q.timers
      · intro u hu hkeep later hlater
        rcases Queue.mem_schedule.1 hu with rfl | hu
        · exact absurd hkeep (by simpa [Playback.cueTimer] using hspeaks)
        · exact hq u hu hkeep later hlater

end SpriteStage
