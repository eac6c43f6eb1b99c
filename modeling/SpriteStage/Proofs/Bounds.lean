import Mathlib
import SpriteStage.Proofs.Clicks
import SpriteStage.Proofs.Order

/-!
# The bounds of the stage

On a measured stage the clamp brings every position, whatever its coordinates are, to one at which a
part of the sprite is on the stage, and moves none that is at such a place already
(`Viewport.onStage_clamp`, `Viewport.beq_clamp`). All that moves a sprite ends with the clamp. So
every sprite whose script has run is on the stage, if the stage was measured before the first
session and keeps its size (`Run.stage_bounds`).
-/

namespace SpriteStage

namespace Viewport

/-! ## One axis -/

section Axis

variable {low high x : Float}

/-- **What the clamp does on an axis.** A coordinate between the bounds stays. Otherwise it goes to
the far bound if it is not below it, and to the near one if it is not above that or if there is
nothing between the bounds. -/
theorem clampAxis_cases {P : Float → Prop} (hlow : low.isNaN = false) (hhigh : high.isNaN = false)
    (hinside : low < x → x < high → P x) (hfar : low < high → ¬x < high → P high)
    (hnear : (x < high → ¬low < x) → (¬x < high → ¬low < high) → P low) :
    P (clampAxis low high x) := by
  unfold clampAxis least greatest
  simp only [hlow, hhigh, Bool.false_eq_true, if_false]
  by_cases hx : x < high
  · rw [if_pos hx]
    split
    · rename_i hlt
      exact hinside hlt hx
    · rename_i hnot
      exact hnear (fun _ => hnot) (absurd hx)
  · rw [if_neg hx]
    split
    · rename_i hlt
      exact hfar hlt hx
    · rename_i hnot
      exact hnear (fun h => absurd h hx) fun _ => hnot

/-- A coordinate that was clamped is not clamped any further. -/
theorem clampAxis_clampAxis (hlow : low.isNaN = false) (hhigh : high.isNaN = false) (x : Float) :
    clampAxis low high (clampAxis low high x) = clampAxis low high x := by
  apply clampAxis_cases (x := x) (P := fun y => clampAxis low high y = y) hlow hhigh
  · intro hlt hx
    apply clampAxis_cases (P := fun y => y = x) hlow hhigh
    · exact fun _ _ => rfl
    · exact fun _ hnot => absurd hx hnot
    · exact fun hnot _ => absurd hlt (hnot hx)
  · intro hlt _
    apply clampAxis_cases (P := fun y => y = high) hlow hhigh
    · exact fun _ hself => absurd hself (Float.lt_irrefl high)
    · exact fun _ _ => rfl
    · exact fun _ hnot => absurd hlt (hnot (Float.lt_irrefl high))
  · intro _ _
    apply clampAxis_cases (P := fun y => y = low) hlow hhigh
    · exact fun _ _ => rfl
    · exact fun hlt hnot => absurd hlt hnot
    · exact fun _ _ => rfl

/-- What was clamped is between the bounds, or at the near one if that is the greater. -/
theorem clampAxis_bounds (hlow : low.isNaN = false) (hhigh : high.isNaN = false) (x : Float) :
    low ≤ clampAxis low high x ∧ clampAxis low high x ≤ max low high := by
  apply clampAxis_cases (P := fun y => low ≤ y ∧ y ≤ max low high) hlow hhigh
  · intro hlt hx
    exact ⟨Float.le_of_lt hlt, (Float.le_max_iff hlow hhigh).2 (Or.inr (Float.le_of_lt hx))⟩
  · intro hlt _
    exact ⟨Float.le_of_lt hlt, (Float.le_max_iff hlow hhigh).2 (Or.inr (Float.le_refl hhigh))⟩
  · intro _ _
    exact ⟨Float.le_refl hlow, (Float.le_max_iff hlow hhigh).2 (Or.inl (Float.le_refl hlow))⟩

/-- A coordinate within the bounds keeps its value. -/
theorem clampAxis_beq (hlow : low.isNaN = false) (hhigh : high.isNaN = false) (hlowx : low ≤ x)
    (hx : x ≤ max low high) : (clampAxis low high x == x) = true := by
  have hnumber : x.isNaN = false := (le_iff_rank.1 hlowx).1.2
  rw [Float.le_max_iff hlow hhigh] at hx
  apply clampAxis_cases (P := fun y => (y == x) = true) hlow hhigh
  · intro _ _
    exact Float.beq_iff_le_and_le.2 ⟨Float.le_refl hnumber, Float.le_refl hnumber⟩
  · intro hlt hnot
    have hxhigh : x ≤ high := hx.elim (fun h => Float.le_trans h (Float.le_of_lt hlt)) id
    exact Float.beq_iff_le_and_le.2 ⟨(Float.not_lt hnumber hhigh).1 hnot, hxhigh⟩
  · intro hbelow habove
    have hxlow : x ≤ low := by
      by_cases hlt : x < high
      · exact (Float.not_lt hlow hnumber).1 (hbelow hlt)
      · -- the near bound is the greater one
        have hle : high ≤ low := (Float.not_lt hlow hhigh).1 (habove hlt)
        exact hx.elim id fun h => Float.le_trans h hle
    exact Float.beq_iff_le_and_le.2 ⟨hlowx, hxlow⟩

end Axis

/-! ## Both axes -/

/-- A part of the sprite is within the side of a stage. -/
def InReach (side x : Float) : Prop := -80.0 ≤ x ∧ x ≤ max (-80.0) (side - 20.0)

/-- A part of the sprite is on the stage. -/
def OnStage (v : Viewport) (p : Position) : Prop := InReach v.width p.x ∧ InReach v.height p.y

variable {v : Viewport}

theorem isMeasured_iff : v.isMeasured = true ↔ 0.0 < v.width ∧ 0.0 < v.height := by
  unfold isMeasured
  rw [Bool.and_eq_true, decide_eq_true_iff, decide_eq_true_iff]

/-- On a stage that is not measured the clamp does nothing. -/
theorem clamp_of_not_measured (h : ¬(0.0 < v.width ∧ 0.0 < v.height)) (p : Position) :
    v.clamp p = p := by
  unfold clamp
  rw [if_neg (mt isMeasured_iff.1 h)]

/-- On a measured stage each axis is clamped on its own, to what leaves a fifth of a sprite on
it. -/
theorem clamp_of_measured (h : 0.0 < v.width ∧ 0.0 < v.height) (p : Position) :
    v.clamp p =
      ⟨clampAxis (-80.0) (v.width - 20.0) p.x, clampAxis (-80.0) (v.height - 20.0) p.y⟩ := by
  have hlow : visibleMargin - spriteExtent = -80.0 := by decide
  unfold clamp
  rw [if_pos (isMeasured_iff.2 h), hlow]
  rfl

theorem isNaN_low : (-80.0 : Float).isNaN = false := by decide

/-- The far bound of a measured side is a number, and may be infinite. -/
theorem isNaN_far {side : Float} (h : 0.0 < side) : (side - 20.0).isNaN = false :=
  Float.isNaN_sub (lt_iff_rank.1 h).1.2 (by decide)

/-- The clamp brings every position onto a measured stage. -/
theorem onStage_clamp (h : 0.0 < v.width ∧ 0.0 < v.height) (p : Position) :
    v.OnStage (v.clamp p) := by
  rw [clamp_of_measured h]
  exact ⟨clampAxis_bounds isNaN_low (isNaN_far h.1) p.x,
    clampAxis_bounds isNaN_low (isNaN_far h.2) p.y⟩

/-- A position on the stage has numbers for its coordinates. -/
theorem OnStage.not_hasNaN {p : Position} (h : v.OnStage p) : ¬p.HasNaN := by
  have hx := (le_iff_rank.1 h.1.1).1.2
  have hy := (le_iff_rank.1 h.2.1).1.2
  rintro (hnan | hnan)
  · exact absurd (hx.symm.trans hnan) Bool.false_ne_true
  · exact absurd (hy.symm.trans hnan) Bool.false_ne_true

/-- A coordinate in reach keeps its value, whatever the other one is. -/
theorem beq_clamp (h : 0.0 < v.width ∧ 0.0 < v.height) (p : Position) :
    (InReach v.width p.x → ((v.clamp p).x == p.x) = true) ∧
      (InReach v.height p.y → ((v.clamp p).y == p.y) = true) := by
  rw [clamp_of_measured h]
  exact ⟨fun hx => clampAxis_beq isNaN_low (isNaN_far h.1) hx.1 hx.2,
    fun hy => clampAxis_beq isNaN_low (isNaN_far h.2) hy.1 hy.2⟩

/-- A position that was clamped is not clamped any further. -/
theorem clamp_clamp (v : Viewport) (p : Position) : v.clamp (v.clamp p) = v.clamp p := by
  by_cases h : 0.0 < v.width ∧ 0.0 < v.height
  · rw [clamp_of_measured h, clamp_of_measured h]
    simp only [clampAxis_clampAxis isNaN_low (isNaN_far h.1),
      clampAxis_clampAxis isNaN_low (isNaN_far h.2)]
  · rw [clamp_of_not_measured h]

end Viewport

/-! ## What all actors have in common -/

/-- A property of actors that has nothing to do with bubbles, holds of all newcomers and is not lost
when a script may run again. -/
structure Actor.Steady (P : Actor → Prop) : Prop where
  home : ∀ s, P (.home s)
  bubble : ∀ a bubble, P a → P { a with bubble := bubble }
  reset : ∀ a, P a → P { a with hasRun := false }

/-- All actors have the property. -/
def Cast.All (P : Actor → Prop) (c : Cast) : Prop := ∀ id a, c.get? id = some a → P a

section All

variable {P : Actor → Prop} {c : Cast} {p : Playback} {r : Run}

/-- What each change of an actor keeps holds of all actors after it. -/
theorem Cast.All.map (h : c.All P) {f : SpriteId → Actor → Actor} (hf : ∀ id a, P a → P (f id a)) :
    (c.map f).All P := by
  intro id a ha
  rw [Cast.get?_map] at ha
  obtain ⟨b, hb, rfl⟩ := Option.map_eq_some_iff.1 ha
  exact hf id b (h id b hb)

/-- It is enough that it is kept for the actor that is changed. -/
theorem Cast.All.modify (h : c.All P) (id : SpriteId) {f : Actor → Actor}
    (hf : ∀ a, P a → P (f a)) : (c.modify id f).All P := by
  refine h.map fun k a ha => ?_
  split
  · exact hf a ha
  · exact ha

/-- Newcomers are at home, and all others stay as they are. -/
theorem Cast.All.reconcile (h : c.All P) (hP : Actor.Steady P) (sprites : List Sprite) :
    (c.reconcile sprites).All P := by
  intro id a ha
  rw [Cast.get?_reconcile] at ha
  obtain ⟨s, -, rfl⟩ := Option.map_eq_some_iff.1 ha
  cases hstayed : c.get? id with
  | none => exact hP.home s
  | some b => exact h id b hstayed

theorem Cast.All.clearBubbles (h : c.All P) (hP : Actor.Steady P) : c.clearBubbles.All P :=
  h.map fun _ a => hP.bubble a none

/-- The scripts of all sprites keep what a script keeps. -/
theorem Cast.All.actAll (h : c.All P) {v : Viewport}
    (hact : ∀ script a, P a → P (a.act v script)) (sprites : List Sprite) :
    (Run.actAll v sprites c).All P := by
  unfold Run.actAll
  induction sprites generalizing c with
  | nil => exact h
  | cons s rest ih => exact ih (h.modify s.id (hact s.script))

/-- A look at the program brings newcomers and ends bubbles, no more. -/
theorem Cast.All.sync (h : p.cast.All P) (hP : Actor.Steady P) (sprites : List Sprite) :
    (p.sync sprites).cast.All P := by
  apply Playback.sync_cases (P := fun q => q.cast.All P)
  · intro _
    exact h
  · intro _
    exact h.reconcile hP sprites
  · intro session schedule _
    exact (h.reconcile hP sprites).clearBubbles hP

/-- A session begins with actors that have not run yet. -/
theorem Cast.All.start (h : p.cast.All P) (hP : Actor.Steady P) : p.start.cast.All P := by
  have hreset : p.cast.resetRuns.All P := h.map fun _ a => hP.reset a
  exact hreset.clearBubbles hP

theorem Cast.All.stop (h : p.cast.All P) (hP : Actor.Steady P) : p.stop.cast.All P := by
  unfold Playback.stop
  split
  · exact h
  · exact h.clearBubbles hP

/-- A click changes one actor, by the instruction clicked. -/
theorem Cast.All.click (h : p.cast.All P) {c : Click}
    (hclick : ∀ a, P a → P (a.click p.viewport c.instruction p.hues).1) :
    (p.click c).cast.All P := by
  rw [Playback.click_eq_ite]
  split
  · exact h
  · exact h.modify c.sprite hclick

/-- What a pass of a script keeps is kept by a tick, which lets every script run that is due. -/
theorem Cast.All.tick (h : r.playback.cast.All P) (hP : Actor.Steady P)
    (hact : ∀ script a, P a → P (a.act r.playback.viewport script)) (session : Token) :
    (r.tick session).playback.cast.All P := by
  have hacted : r.acted.playback.cast.All P := h.actAll hact r.program.sprites
  apply Run.tick_cases (P := fun m => m.playback.cast.All P)
  · exact hacted
  · intro a b
    have hannounced : (r.acted.announced session a b).cast.All P := hacted
    exact hannounced.sync hP _

/-- Of all timers only ticks let scripts run. -/
theorem Cast.All.firedBy (h : r.playback.cast.All P) (hP : Actor.Steady P)
    (hact : ∀ script a, P a → P (a.act r.playback.viewport script)) (fired : Fired TimedEvent)
    (left : Queue TimedEvent) : (r.firedBy fired left).playback.cast.All P := by
  have htaken : (r.taken fired left).playback.cast.All P := h
  apply Run.firedBy_cases (P := fun m => m.playback.cast.All P)
  · exact htaken
  · exact htaken.tick hP hact _
  · exact htaken
  · intro sprite bubble
    exact htaken.modify sprite fun a => hP.bubble a bubble

end All

namespace Run

variable {r : Run} {v : Viewport}

/-! ## Before the first session -/

/-- No session is on, and no script has run. -/
structure Idle (r : Run) : Prop where
  stopped : r.playback.mode = .stopped
  actors : r.playback.cast.All fun a => a.hasRun = false

/-- Newcomers have not run, and an actor that has not run has not run whatever it says. -/
theorem steady_idle : Actor.Steady fun a => a.hasRun = false where
  home := fun _ => rfl
  bubble := fun _ _ h => h
  reset := fun _ _ => rfl

/-- A fresh run has no actors, so none of them has run. -/
theorem idle_fresh (settings : PlaybackSettings) (seed : UInt64) (program : Program) :
    Idle (fresh settings seed program) := by
  refine ⟨rfl, fun id a ha => ?_⟩
  cases ha

theorem Idle.sync (h : Idle r) : Idle r.sync :=
  ⟨mode_sync_of_stopped h.stopped, h.actors.sync steady_idle r.program.sprites⟩

/-- Without a session a timer does nothing. -/
theorem firedBy_of_stopped (h : r.playback.mode = .stopped) (fired : Fired TimedEvent)
    (left : Queue TimedEvent) : r.firedBy fired left = r.taken fired left := by
  unfold firedBy fire
  simp only [h, taken]

/-- Only the beginning of a session lets scripts run. -/
theorem Idle.call (h : Idle r) {c : Call} (hplay : c ≠ .play) (hon : c ≠ .setPlaying true) :
    Idle (r.call c) := by
  have hstop : r.playback.stop = r.playback := by
    unfold Playback.stop
    rw [h.stopped]
  cases c with
  | edit program => exact ⟨h.stopped, h.actors⟩
  | resize w => exact ⟨h.stopped, h.actors⟩
  | sync => exact h.sync
  | play => exact absurd rfl hplay
  | stop =>
    show Idle { r with playback := r.playback.stop }
    rw [hstop]
    exact h
  | setPlaying on =>
    cases on with
    | true => exact absurd rfl hon
    | false =>
      show Idle { r with playback := r.playback.stop }
      rw [hstop]
      exact h
  | advance dt =>
    have hdrain : Idle (drain (r.playback.clock + dt) r.sync) := by
      refine forall_drain (fun m fired left hm _ => ?_) h.sync
      rw [firedBy_of_stopped hm.stopped]
      exact ⟨hm.stopped, hm.actors⟩
    exact ⟨hdrain.stopped, hdrain.actors⟩
  | click c =>
    refine ⟨?_, h.actors.click fun a ha => ?_⟩
    · obtain ⟨stamp, hues, cast, heq, -⟩ := r.playback.click_eq c
      show (r.playback.click c).mode = _
      rw [heq]
      exact h.stopped
    · exact (a.unmoved_click r.playback.viewport r.playback.hues c.instruction).1.trans ha

/-- As long as no session begins, no script runs. -/
theorem Idle.after {calls : List Call} (h : Idle r)
    (hcalls : ∀ c ∈ calls, c ≠ .play ∧ c ≠ .setPlaying true) : Idle (r.after calls) := by
  induction calls generalizing r with
  | nil => exact h
  | cons c rest ih =>
    obtain ⟨⟨hplay, hon⟩, hrest⟩ := List.forall_mem_cons.1 hcalls
    exact ih (h.call hplay hon) hrest

/-! ## On a stage of one size -/

/-- The stage has this size, and the sprites whose scripts have run are on it. -/
structure Bounded (v : Viewport) (r : Run) : Prop where
  viewport : r.playback.viewport = v
  actors : r.playback.cast.All fun a => a.hasRun = true → v.OnStage a.position

/-- Newcomers may be anywhere, for they have not run, and no bubble moves an actor. -/
theorem steady_bounded (v : Viewport) :
    Actor.Steady fun a => a.hasRun = true → v.OnStage a.position where
  home := fun _ h => absurd h Bool.false_ne_true
  bubble := fun _ _ h => h
  reset := fun _ _ h => absurd h Bool.false_ne_true

/-- A script that runs takes its sprite onto the stage. -/
theorem onStage_act (hv : 0.0 < v.width ∧ 0.0 < v.height) (script : Script) {a : Actor}
    (h : a.hasRun = true → v.OnStage a.position) :
    (a.act v script).hasRun = true → v.OnStage (a.act v script).position := by
  unfold Actor.act
  split
  · exact fun _ => Viewport.onStage_clamp hv _
  · exact h

/-- A click takes its sprite onto the stage or leaves it where it is. -/
theorem onStage_click (hv : 0.0 < v.width ∧ 0.0 < v.height) (i : Instruction) (hues : Hues)
    {a : Actor} (h : a.hasRun = true → v.OnStage a.position) :
    (a.click v i hues).1.hasRun = true → v.OnStage (a.click v i hues).1.position := by
  intro hrun
  rw [(a.unmoved_click v hues i).1] at hrun
  cases hmotion : i.isMotion with
  | true =>
    rw [(a.motion_click v hues ⟨0⟩ hmotion).1]
    exact Viewport.onStage_clamp hv _
  | false =>
    rw [(a.still_click v hues hmotion).1]
    exact h hrun

theorem Bounded.sync (h : Bounded v r) : Bounded v r.sync :=
  ⟨(Playback.alike_sync r.playback r.program.sprites).viewport.trans h.viewport,
    h.actors.sync (steady_bounded v) r.program.sprites⟩

theorem viewport_firedBy (r : Run) (fired : Fired TimedEvent) (left : Queue TimedEvent) :
    (r.firedBy fired left).playback.viewport = r.playback.viewport := by
  apply firedBy_cases (P := fun m => m.playback.viewport = r.playback.viewport)
  · rfl
  · exact (tick_terms _ _).2.1
  · rfl
  · intro sprite bubble
    rfl

/-- A firing leaves all that have run on the stage, for the passes of a tick end with the clamp. -/
theorem Bounded.firedBy (hv : 0.0 < v.width ∧ 0.0 < v.height) (h : Bounded v r)
    (fired : Fired TimedEvent) (left : Queue TimedEvent) : Bounded v (r.firedBy fired left) := by
  refine ⟨(viewport_firedBy r fired left).trans h.viewport, ?_⟩
  refine h.actors.firedBy (steady_bounded v) (fun script a ha => ?_) fired left
  rw [h.viewport]
  exact onStage_act hv script ha

/-- When a session begins, nothing has run. -/
theorem Bounded.play (h : Bounded v r) : Bounded v r.play := by
  unfold Run.play
  split
  · exact h
  · exact ⟨h.sync.viewport, h.sync.actors.start (steady_bounded v)⟩

theorem Bounded.stop (h : Bounded v r) : Bounded v r.stop := by
  refine ⟨?_, h.actors.stop (steady_bounded v)⟩
  show r.playback.stop.viewport = v
  unfold Playback.stop
  split <;> exact h.viewport

theorem Bounded.click (hv : 0.0 < v.width ∧ 0.0 < v.height) (h : Bounded v r) (c : Click) :
    Bounded v { r with playback := r.playback.click c } := by
  constructor
  · obtain ⟨stamp, hues, cast, heq, -⟩ := r.playback.click_eq c
    show (r.playback.click c).viewport = v
    rw [heq]
    exact h.viewport
  · refine h.actors.click fun a ha => ?_
    rw [h.viewport]
    exact onStage_click hv c.instruction r.playback.hues ha

/-- What a bounded run passes through while time passes is bounded. -/
theorem Bounded.moments (hv : 0.0 < v.width ∧ 0.0 < v.height) (h : Bounded v r) (dt : Duration) :
    ∀ m ∈ r.moments dt, Bounded v m :=
  forall_runsBy (fun _ fired left hm _ => hm.firedBy hv fired left) h.sync

theorem Bounded.advance (hv : 0.0 < v.width ∧ 0.0 < v.height) (h : Bounded v r) (dt : Duration) :
    Bounded v (r.advance dt) := by
  have hdrain : Bounded v (drain (r.playback.clock + dt) r.sync) :=
    forall_drain (fun _ fired left hm _ => hm.firedBy hv fired left) h.sync
  exact ⟨hdrain.viewport, hdrain.actors⟩

/-- Every call but one that gives the stage another size keeps a run bounded. -/
theorem Bounded.call (hv : 0.0 < v.width ∧ 0.0 < v.height) (h : Bounded v r) {c : Call}
    (hsize : ∀ w, c = .resize w → w = v) : Bounded v (r.call c) := by
  cases c with
  | edit program => exact ⟨h.viewport, h.actors⟩
  | resize w => exact ⟨hsize w rfl, h.actors⟩
  | sync => exact h.sync
  | play => exact h.play
  | stop => exact h.stop
  | setPlaying on =>
    cases on with
    | false => exact h.stop
    | true => exact h.play
  | advance dt => exact h.advance hv dt
  | click c => exact h.click hv c

/-- All that a call leads through is bounded, if it does not change the size of the stage. -/
theorem Bounded.trail (hv : 0.0 < v.width ∧ 0.0 < v.height) (h : Bounded v r) {c : Call}
    (hsize : ∀ w, c = .resize w → w = v) : ∀ m ∈ r.trail c, Bounded v m := by
  have hcall := h.call hv hsize
  cases c with
  | advance dt =>
    intro m hm
    rcases List.mem_append.1 hm with hm | hm
    · exact h.moments hv dt m hm
    · rw [List.mem_singleton.1 hm]
      exact hcall
  | _ => exact List.forall_mem_singleton.2 hcall

theorem Bounded.after (hv : 0.0 < v.width ∧ 0.0 < v.height) {calls : List Call} (h : Bounded v r)
    (hsize : ∀ w, .resize w ∈ calls → w = v) : Bounded v (r.after calls) := by
  induction calls generalizing r with
  | nil => exact h
  | cons c rest ih =>
    refine ih (h.call hv fun w hw => hsize w ?_) fun w hw => hsize w (List.mem_cons_of_mem _ hw)
    rw [← hw]
    exact List.mem_cons_self

/-- All that a bounded run passes through is bounded. -/
theorem Bounded.history (hv : 0.0 < v.width ∧ 0.0 < v.height) {calls : List Call} (h : Bounded v r)
    (hsize : ∀ w, .resize w ∈ calls → w = v) : ∀ m ∈ r.history calls, Bounded v m := by
  induction calls generalizing r with
  | nil => exact fun m hm => absurd hm List.not_mem_nil
  | cons c rest ih =>
    have hfirst : ∀ w, c = .resize w → w = v := by
      rintro w rfl
      exact hsize w List.mem_cons_self
    intro m hm
    rcases List.mem_append.1 hm with hm | hm
    · exact h.trail hv hfirst m hm
    · exact ih (h.call hv hfirst) (fun w hw => hsize w (List.mem_cons_of_mem _ hw)) m hm

/-- A stage that is measured before the first session starts bounded. -/
theorem Idle.bounded (h : Idle r) (v : Viewport) : Bounded v (r.call (.resize v)) := by
  refine ⟨rfl, fun id a ha hrun => ?_⟩
  exact absurd ((h.actors id a ha).symm.trans hrun) Bool.false_ne_true

/-- **The bounds of the stage.**

* The clamp changes nothing when it is applied again, and nothing on a stage that is not measured.
* On a measured stage it brings every position onto the stage, NaNs and infinities included, and
  keeps the value of each coordinate that is in reach already.
* If a stage is measured before the first session, then as long as it has the same size, every
  sprite whose script has run is on it, after all calls and at all moments on the way. -/
theorem stage_bounds (v : Viewport) :
    (∀ p, v.clamp (v.clamp p) = v.clamp p) ∧
    (¬(0.0 < v.width ∧ 0.0 < v.height) → ∀ p, v.clamp p = p) ∧
    (0.0 < v.width ∧ 0.0 < v.height →
      (∀ p, v.OnStage (v.clamp p) ∧ ¬(v.clamp p).HasNaN ∧
        (Viewport.InReach v.width p.x → ((v.clamp p).x == p.x) = true) ∧
        (Viewport.InReach v.height p.y → ((v.clamp p).y == p.y) = true)) ∧
      ∀ (settings : PlaybackSettings) (seed : UInt64) (program : Program)
        (before later : List Call), (∀ c ∈ before, c ≠ .play ∧ c ≠ .setPlaying true) →
        (∀ w, .resize w ∈ later → w = v) →
        let measured := (fresh settings seed program).after (before ++ [.resize v])
        ∀ m, m = measured.after later ∨ m ∈ measured.history later →
          ∀ id a, m.playback.cast.get? id = some a → a.hasRun = true →
            v.OnStage a.position) := by
  refine ⟨v.clamp_clamp, fun hv p => Viewport.clamp_of_not_measured hv p, fun hv => ⟨?_, ?_⟩⟩
  · intro p
    have hstage := Viewport.onStage_clamp hv p
    exact ⟨hstage, hstage.not_hasNaN, Viewport.beq_clamp hv p⟩
  · intro settings seed program before later hbefore hsize measured m hm
    have hmeasured : Bounded v measured := by
      show Bounded v ((fresh settings seed program).after (before ++ [.resize v]))
      rw [after, List.foldl_append]
      exact ((idle_fresh settings seed program).after hbefore).bounded v
    rcases hm with rfl | hm
    · exact (hmeasured.after hv hsize).actors
    · exact (hmeasured.history hv hsize m hm).actors

/-- A sprite that walks off the stage on the first tick is brought back. A position without numbers
goes to the far corner. -/
theorem stage_bounds_move :
    let v : Viewport := ⟨600.0, 400.0⟩
    let program : Program := ⟨{}, [⟨⟨1⟩, "Cat 1", 560.0, 50.0, [⟨⟨1⟩, .move (some 50.0)⟩]⟩]⟩
    let measured := (fresh {} 7 program).after [.sync, .resize v]
    (0.0 < v.width ∧ 0.0 < v.height) ∧
      v.clamp ⟨.nan, .nan⟩ = ⟨580.0, 380.0⟩ ∧ v.OnStage (v.clamp ⟨.nan, .nan⟩) ∧
      ∃ m ∈ measured.history [.play, .advance (.ofMillis 700)], ∃ a,
        m.playback.cast.get? ⟨1⟩ = some a ∧ a.hasRun = true ∧ a.position = ⟨580.0, 50.0⟩ ∧
          v.OnStage a.position := by
  intro v program measured
  have hv : 0.0 < v.width ∧ 0.0 < v.height := by decide
  obtain ⟨hclamp, hruns⟩ := (stage_bounds v).2.2 hv
  refine ⟨hv, by decide, (hclamp _).1, ?_⟩
  -- the run after the first timer has fired
  let r := measured.play.sync
  let target := measured.play.playback.clock + .ofMillis 700
  have hfirst : ((r.playback.queue.popDue? target).map fun popped =>
      ((r.firedBy popped.1 popped.2).playback.cast.get? ⟨1⟩).map fun a => (a.hasRun, a.position)) =
        some (some (true, ⟨580.0, 50.0⟩)) := by
    decide +kernel
  obtain ⟨⟨fired, left⟩, hpop, hactor⟩ := Option.map_eq_some_iff.1 hfirst
  obtain ⟨a, ha, hshown⟩ := Option.map_eq_some_iff.1 hactor
  obtain ⟨hrun, hposition⟩ := Prod.mk.inj hshown
  have hmem : r.firedBy fired left ∈ measured.history [.play, .advance (.ofMillis 700)] := by
    have hfirings : r.firedBy fired left ∈ runsBy target r := by
      rw [runsBy, firings_of_some hpop]
      exact List.mem_cons_self
    simp only [history, trail, call, moments, List.mem_append, List.mem_cons]
    exact Or.inr (Or.inl (Or.inl (Or.inr hfirings)))
  refine ⟨_, hmem, a, ha, hrun, hposition, ?_⟩
  exact hruns {} 7 program [.sync] _ (by simp) (by simp) _ (Or.inr hmem) ⟨1⟩ a ha hrun

end Run

end SpriteStage
