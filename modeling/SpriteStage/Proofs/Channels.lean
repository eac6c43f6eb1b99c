import Mathlib.Data.List.DropRight
import SpriteStage.Stage

/-!
# What a script comes to

A pass carries six values, and each instruction sets some of them, adds to some and keeps the
others. A `Channel` is one of these values with what instructions do to it (`Write`). What a script
makes of a channel depends on the last block that sets it and on the blocks after that one
(`Channel.read_run`), so blocks before that one, and blocks that keep the channel, can be taken out
of the script (`Channel.read_run_delete`).
-/

namespace SpriteStage

/-! ## Writes -/

/-- What an instruction does to one value. -/
inductive Write (α : Type) where
  /-- It becomes this one, whatever it was. -/
  | set (value : α)
  /-- This amount is added to it. -/
  | add (amount : α)
  /-- It stays as it is. -/
  | keep

namespace Write

variable {α : Type} {plus : α → α → α}

/-- The value after a write. -/
def apply (plus : α → α → α) (a : α) : Write α → α
  | .set value => value
  | .add amount => plus a amount
  | .keep => a

/-- The value that it becomes, whatever it was. -/
def value? : Write α → Option α
  | .set value => some value
  | _ => none

/-- The amount that is added. -/
def amount? : Write α → Option α
  | .add amount => some amount
  | _ => none

/-- What it was before makes no difference. -/
def isSet (w : Write α) : Bool := w.value?.isSome

/-- The value that was set last. -/
def lastSet? (writes : List (Write α)) : Option α := (writes.filterMap value?).getLast?

/-- The amounts added since then, in their order, or all of them if no value was set. -/
def addedSince (writes : List (Write α)) : List α :=
  (writes.rtakeWhile fun w => !w.isSet).filterMap amount?

/-- The last write counts, if it sets the value. -/
theorem lastSet?_concat (writes : List (Write α)) (w : Write α) :
    lastSet? (writes ++ [w]) = w.value?.or (lastSet? writes) := by
  unfold lastSet?
  cases hvalue : w.value? with
  | none => rw [List.filterMap_append, List.filterMap_cons_none hvalue, List.filterMap_nil,
      List.append_nil, Option.none_or]
  | some value => rw [List.filterMap_append, List.filterMap_cons_some hvalue, List.filterMap_nil,
      List.getLast?_concat, Option.some_or]

/-- A write that sets the value leaves no additions, and any other one adds its own. -/
theorem addedSince_concat (writes : List (Write α)) (w : Write α) :
    addedSince (writes ++ [w]) = if w.isSet then [] else addedSince writes ++ w.amount?.toList := by
  unfold addedSince
  rw [List.rtakeWhile_concat]
  by_cases hset : w.isSet = true
  · simp [hset]
  · cases hamount : w.amount? <;> simp [hset, hamount]

/-- **Writes one after the other.** The value is the one that was set last, or the one at the
beginning, with the amounts added since then one by one. -/
theorem foldl_apply (writes : List (Write α)) (a : α) :
    writes.foldl (apply plus) a = (addedSince writes).foldl plus ((lastSet? writes).getD a) := by
  -- from the last write backwards, since the value depends on that one first
  induction writes using List.reverseRecOn with
  | nil => rfl
  | append_singleton writes w ih =>
    rw [List.foldl_append, ih, lastSet?_concat, addedSince_concat]
    cases w with
    | set value => rfl
    | add amount =>
      show _ = (addedSince writes ++ [amount]).foldl plus _
      rw [List.foldl_append]
      rfl
    | keep =>
      show _ = (addedSince writes ++ []).foldl plus _
      rw [List.append_nil]
      rfl

/-- A write before one that sets the value makes no difference. -/
theorem foldl_apply_of_isSet {writes : List (Write α)} (h : ∃ w ∈ writes, w.isSet = true)
    (a b : α) : writes.foldl (apply plus) a = writes.foldl (apply plus) b := by
  induction writes generalizing a b with
  | nil => simp at h
  | cons w rest ih =>
    rw [List.foldl_cons, List.foldl_cons]
    rcases List.exists_mem_cons_iff _ _ _ |>.1 h with hset | hrest
    · cases w with
      | set value => rfl
      | add amount => exact absurd hset Bool.false_ne_true
      | keep => exact absurd hset Bool.false_ne_true
    · exact ih hrest _ _

end Write

/-! ## Channels -/

/-- A value that a pass carries, and what instructions do to it. -/
structure Channel (α : Type) where
  read : Pass → α
  write : Instruction → Write α
  plus : α → α → α
  acts : ∀ p i, read (i.act p) = (write i).apply plus (read p)

namespace Channel

/-- Moves add their steps to the place across, and `goto` sets it if it has a place across. -/
def x : Channel Float where
  read p := p.position.x
  write
    | .move steps => .add (steps.getD 0.0)
    | .goto (some x) _ => .set x
    | _ => .keep
  plus := (· + ·)
  acts p i := by
    cases i with
    | goto x y => cases x <;> rfl
    | _ => rfl

/-- Only `goto` sets the place down, if it has one. -/
def y : Channel Float where
  read p := p.position.y
  write
    | .goto _ (some y) => .set y
    | _ => .keep
  plus := (· + ·)
  acts p i := by
    cases i with
    | goto x y => cases y <;> rfl
    | _ => rfl

/-- Turns add their degrees. Nothing sets them. -/
def turned : Channel Float where
  read p := p.turned
  write
    | .turn degrees => .add (degrees.getD 0.0)
    | _ => .keep
  plus := (· + ·)
  acts p i := by cases i <;> rfl

/-- The size is set by its own instruction and by the return to the beginning, and changes add to
it. -/
def size : Channel Float where
  read p := p.looks.size
  write
    | .setSizeTo value => .set (value.getD 100.0)
    | .clearEffects => .set 100.0
    | .changeSizeBy amount => .add (amount.getD 0.0)
    | _ => .keep
  plus := (· + ·)
  acts p i := by cases i <;> rfl

/-- The color is set by its own instruction and by the return to the beginning, and changes add to
it. -/
def color : Channel Float where
  read p := p.looks.color
  write
    | .setColor value => .set (value.getD 0.0)
    | .clearEffects => .set 0.0
    | .changeColor amount => .add (amount.getD 0.0)
    | _ => .keep
  plus := (· + ·)
  acts p i := by cases i <;> rfl

/-- A sprite is shown or hidden. Nothing can be added to that. -/
def visible : Channel Bool where
  read p := p.looks.visible
  write
    | .reveal => .set true
    | .hide => .set false
    | _ => .keep
  plus shown _ := shown
  acts p i := by cases i <;> rfl

variable {α : Type} (c : Channel α)

/-- What the blocks of a script do to the channel. -/
def writes (s : Script) : List (Write α) := s.map fun b => c.write b.instruction

/-- The value that the script sets last. -/
def lastSet? (s : Script) : Option α := Write.lastSet? (c.writes s)

/-- The amounts that the script adds after that, in its order. -/
def addedSince (s : Script) : List α := Write.addedSince (c.writes s)

/-- A pass changes each channel by the writes to it. -/
theorem read_foldl (s : Script) (p : Pass) :
    c.read (s.foldl (fun p b => b.instruction.act p) p) =
      (c.writes s).foldl (Write.apply c.plus) (c.read p) := by
  unfold writes
  induction s generalizing p with
  | nil => rfl
  | cons b rest ih => rw [List.foldl_cons, ih, c.acts, List.map_cons, List.foldl_cons]

/-- **What a script makes of a channel.** -/
theorem read_run (s : Script) (position : Position) (looks : Looks) :
    c.read (s.run position looks) =
      (c.addedSince s).foldl c.plus ((c.lastSet? s).getD (c.read ⟨position, 0.0, looks⟩)) := by
  rw [Script.run, c.read_foldl, Write.foldl_apply]
  rfl

variable {c}

/-- If nothing is ever added to a channel, the value that is set last stays. -/
theorem addedSince_of_keep (h : ∀ i, (c.write i).amount? = none) (s : Script) :
    c.addedSince s = [] := by
  unfold addedSince Write.addedSince
  rw [List.filterMap_eq_nil_iff]
  intro w hw
  obtain ⟨b, -, rfl⟩ := List.mem_map.1 ((List.rtakeWhile_suffix _ _).mem hw)
  exact h b.instruction

/-- If nothing ever sets a channel, all amounts are added to what it was at the beginning. -/
theorem lastSet?_of_keep (h : ∀ i, (c.write i).value? = none) (s : Script) :
    c.lastSet? s = none := by
  unfold lastSet? Write.lastSet?
  rw [List.getLast?_eq_none_iff, List.filterMap_eq_nil_iff]
  intro w hw
  obtain ⟨b, -, rfl⟩ := List.mem_map.1 hw
  exact h b.instruction

/-- **Blocks without an effect.** A block that keeps the channel, or that comes before one that sets
it, can be taken out. -/
theorem read_run_delete {before after : Script} {b : Block}
    (h : c.write b.instruction = .keep ∨ ∃ d ∈ after, (c.write d.instruction).isSet = true)
    (position : Position) (looks : Looks) :
    c.read (Script.run (before ++ b :: after) position looks) =
      c.read (Script.run (before ++ after) position looks) := by
  unfold Script.run
  rw [c.read_foldl, c.read_foldl, writes, writes, List.map_append, List.map_append, List.map_cons,
    List.foldl_append, List.foldl_append, List.foldl_cons]
  rcases h with hkeep | ⟨d, hd, hset⟩
  · rw [hkeep]
    rfl
  · exact Write.foldl_apply_of_isSet ⟨_, List.mem_map_of_mem hd, hset⟩ _ _

end Channel

/-! ## All channels of a script -/

/-- **What a script comes to.** Across, a sprite is at the place of the last `goto` that has one, or
where it was, with the steps of the moves after that added one by one; down, it is at the place of
the last `goto` that has one, or where it was. It has turned by the sum of all turns. Its size and
its color are the ones set last, or those that it had, with the changes after that added one by one.
It is shown or hidden as the script says last. A block that keeps a channel, or that comes before a
block that sets it, can be taken out of the script and the channel comes to the same. -/
theorem Script.channels_run (s : Script) (position : Position) (looks : Looks) :
    (s.run position looks).position.x =
        (Channel.x.addedSince s).foldl (· + ·) ((Channel.x.lastSet? s).getD position.x) ∧
      (s.run position looks).position.y = (Channel.y.lastSet? s).getD position.y ∧
      (s.run position looks).turned = (Channel.turned.addedSince s).foldl (· + ·) 0.0 ∧
      (s.run position looks).looks.size =
        (Channel.size.addedSince s).foldl (· + ·) ((Channel.size.lastSet? s).getD looks.size) ∧
      (s.run position looks).looks.color =
        (Channel.color.addedSince s).foldl (· + ·) ((Channel.color.lastSet? s).getD looks.color) ∧
      (s.run position looks).looks.visible = (Channel.visible.lastSet? s).getD looks.visible ∧
      ∀ {α : Type} (c : Channel α) (before after : Script) (b : Block),
        s = before ++ b :: after →
        (c.write b.instruction = .keep ∨ ∃ d ∈ after, (c.write d.instruction).isSet = true) →
        c.read (s.run position looks) = c.read (Script.run (before ++ after) position looks) := by
  have hy : Channel.y.addedSince s = [] := by
    apply Channel.addedSince_of_keep
    intro i
    cases i with
    | goto x y => cases y <;> rfl
    | _ => rfl
  have hturned : Channel.turned.lastSet? s = none := by
    apply Channel.lastSet?_of_keep
    intro i
    cases i <;> rfl
  have hvisible : Channel.visible.addedSince s = [] := by
    apply Channel.addedSince_of_keep
    intro i
    cases i <;> rfl
  refine ⟨Channel.x.read_run s position looks, ?_, ?_, Channel.size.read_run s position looks,
    Channel.color.read_run s position looks, ?_, ?_⟩
  · have hread := Channel.y.read_run s position looks
    rw [hy] at hread
    exact hread
  · have hread := Channel.turned.read_run s position looks
    rw [hturned] at hread
    exact hread
  · have hread := Channel.visible.read_run s position looks
    rw [hvisible] at hread
    exact hread
  · rintro α c before after b rfl h
    exact Channel.read_run_delete h position looks

/-- A script that sets the place across and the size on its way, and its first block, which is
nothing to the place because of that. -/
theorem Script.channels_run_medley :
    let first : Block := ⟨⟨1⟩, .move (some 10.0)⟩
    let later : Script := [⟨⟨2⟩, .changeSizeBy (some 40.0)⟩, ⟨⟨3⟩, .goto (some 5.0) none⟩,
      ⟨⟨4⟩, .clearEffects⟩, ⟨⟨5⟩, .move none⟩, ⟨⟨6⟩, .changeSizeBy (some 25.0)⟩]
    let pass := Script.run (first :: later) ⟨50.0, 70.0⟩ {}
    (∃ d ∈ later, (Channel.x.write d.instruction).isSet = true) ∧
      pass.position.x = [0.0].foldl (· + ·) 5.0 ∧ pass.position.y = 70.0 ∧
      pass.looks.size = [25.0].foldl (· + ·) 100.0 ∧ pass.looks.color = 0.0 ∧
      Channel.x.read pass = Channel.x.read (Script.run later ⟨50.0, 70.0⟩ {}) := by
  intro first later pass
  obtain ⟨hx, hy, -, hsize, hcolor, -, hdelete⟩ :=
    Script.channels_run (first :: later) ⟨50.0, 70.0⟩ {}
  have hset : ∃ d ∈ later, (Channel.x.write d.instruction).isSet = true :=
    ⟨⟨⟨3⟩, .goto (some 5.0) none⟩, by simp [later], rfl⟩
  exact ⟨hset, hx, hy, hsize, hcolor, hdelete Channel.x [] later first rfl (Or.inr hset)⟩

end SpriteStage
