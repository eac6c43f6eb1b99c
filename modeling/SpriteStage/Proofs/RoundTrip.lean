import SpriteStage.Proofs.Agreement
import SpriteStage.Settings

/-!
# What is written is read back

Decoding what was encoded gives the value again, for programs, blocks, instructions, patches, clicks
and settings whose numbers are all finite (`format_round_trips`). A number that is not finite has no
JSON. Where it is optional the field comes back absent, and nothing else is lost.

All records are read by one law (`Json.bind_record?`): where no name comes twice among the members
of an object, each field is what its name leads to.
-/

namespace SpriteStage

namespace Json

/-! ## Members that come once -/

/-- A member in front whose name the others do not have is the one value of its name. -/
theorem valuesOf_cons_self {name : String} {members : List (String × Json)}
    (h : name ∉ members.map (·.1)) (j : Json) : valuesOf name ((name, j) :: members) = [j] := by
  have hnone : members.filter (·.1 == name) = [] := by
    rw [List.filter_eq_nil_iff]
    intro entry hentry heq
    exact h (List.mem_map.2 ⟨entry, hentry, beq_iff_eq.1 heq⟩)
  rw [valuesOf, List.filter_cons_of_pos (by simp), hnone]
  rfl

/-- Such a member is all that is taken out by its name. -/
theorem filter_cons_self {name : String} {members : List (String × Json)}
    (h : name ∉ members.map (·.1)) (j : Json) :
    ((name, j) :: members).filter (·.1 != name) = members := by
  rw [List.filter_cons_of_neg (by simp), List.filter_eq_self]
  intro entry hentry
  rw [bne_iff_ne]
  rintro rfl
  exact h (List.mem_map.2 ⟨entry, hentry, rfl⟩)

/-- Where no name comes twice, a name has the value that it leads to. -/
theorem valuesOf_of_nodup {members : List (String × Json)} (h : (members.map (·.1)).Nodup)
    (name : String) : valuesOf name members = (members.lookup name).toList := by
  induction members with
  | nil => rfl
  | cons entry rest ih =>
    obtain ⟨n, j⟩ := entry
    obtain ⟨hn, hrest⟩ := List.nodup_cons.1 h
    by_cases heq : n = name
    · subst heq
      rw [valuesOf_cons_self hn, List.lookup_cons_self]
      rfl
    · rw [lookup_cons_eq, if_neg (Ne.symm heq), ← ih hrest]
      simp [valuesOf, heq]

/-- A record is read from its members by their names, where no name comes twice. -/
theorem bind_record? {names : List String} {members : List (String × Json)}
    {decode : (String → Option Json) → Option α} {answer : Option α}
    (hnodup : (members.map (·.1)).Nodup)
    (h : ∀ field, (∀ name ∈ names, field name = members.lookup name) → decode field = answer) :
    (record? names (.object members)).bind decode = answer := by
  have hlength : (names.all fun name => decide ((valuesOf name members).length ≤ 1)) = true := by
    rw [List.all_eq_true]
    intro name _
    rw [valuesOf_of_nodup hnodup, decide_eq_true_eq]
    cases members.lookup name <;> simp
  rw [record?, if_pos hlength, Option.bind_some]
  refine h _ fun name hname => ?_
  rw [if_pos hname, valuesOf_of_nodup hnodup, Option.head?_toList]

/-- An optional member brings its own name, or none. -/
theorem names_member_sublist (name : String) (encode : α → Json) (x : Option α) :
    ((member name encode x).map (·.1)).Sublist [name] := by
  cases x with
  | none => exact List.nil_sublist _
  | some value => exact List.Sublist.refl _

/-- An optional member is found under its own name only, if there is a value. -/
theorem lookup_member (name other : String) (encode : α → Json) (x : Option α) :
    (member name encode x).lookup other = if other = name then x.map encode else none := by
  cases x with
  | none => simp [member]
  | some value => rw [member, lookup_cons_eq, Option.map_some, List.lookup_nil]

/-- Members are readable together if they are apart. -/
theorem membersReadable_append (l m : List (String × Json)) :
    membersReadable (l ++ m) = (membersReadable l && membersReadable m) := by
  induction l with
  | nil => simp [membersReadable]
  | cons entry rest ih => simp [membersReadable, ih, Bool.and_assoc]

/-- A number is written as a number or not at all, so its member can be read. -/
theorem membersReadable_number (name : String) (x : Option Float) :
    membersReadable (member name ofFloat x) = true := by
  cases x with
  | none => rfl
  | some x =>
    show ((ofFloat x).isReadable && true) = true
    rw [ofFloat]
    split <;> rfl

/-! ## Values -/

-- These are not proved by `rfl`: used as definitional rewrites they would have the kernel compute
-- what the decoders make of open terms.

theorem required_some (decode : Json → Option α) (j : Json) :
    required decode (some j) = decode j := by rw [required]

theorem withDefault_some (default : α) (decode : Json → Option α) (j : Json) :
    withDefault default decode (some j) = decode j := by rw [withDefault]

theorem text?_text (s : String) : text? (.text s) = some s := by rw [text?]

theorem float?_ofFloat {x : Float} (h : x.isFinite = true) : float? (ofFloat x) = some x := by
  rw [ofFloat, if_pos h, float?]

/-- An optional number is read back, if it is finite. -/
theorem optional_float? (x : Option Float) :
    optional float? (x.map ofFloat) = some (x.filter Float.isFinite) := by
  cases x with
  | none => rfl
  | some x =>
    cases h : x.isFinite with
    | true => simp [ofFloat, h, optional, float?, Option.filter]
    | false => simp [ofFloat, h, optional, Option.filter]

/-- An optional text is read back. -/
theorem optional_text? (s : Option String) : optional text? (s.map Json.text) = some s := by
  cases s <;> rfl

theorem nat?_int {n limit : ℕ} (h : n < limit) : nat? limit (.int n) = some n := by
  simp [nat?, h]

/-- A list is read back if all of its items are. -/
theorem list?_map {encode : α → Json} {decode : Json → Option α} {l : List α}
    (h : ∀ x ∈ l, decode (encode x) = some x) : list? decode (.array (l.map encode)) = some l := by
  show (l.map encode).mapM decode = some l
  induction l with
  | nil => rfl
  | cons x rest ih =>
    obtain ⟨hx, hrest⟩ := List.forall_mem_cons.1 h
    rw [List.map_cons, List.mapM_cons, hx, ih hrest]
    rfl

end Json

/-! ## Instructions, blocks and patches -/

namespace Instruction

/-- The instruction without the numbers that are not finite. -/
def finitePart : Instruction → Instruction
  | .move steps => .move (steps.filter Float.isFinite)
  | .turn degrees => .turn (degrees.filter Float.isFinite)
  | .goto x y => .goto (x.filter Float.isFinite) (y.filter Float.isFinite)
  | .bubble kind message seconds => .bubble kind message (seconds.filter Float.isFinite)
  | .changeColor amount => .changeColor (amount.filter Float.isFinite)
  | .setColor value => .setColor (value.filter Float.isFinite)
  | .changeSizeBy amount => .changeSizeBy (amount.filter Float.isFinite)
  | .setSizeTo value => .setSizeTo (value.filter Float.isFinite)
  | .reveal => .reveal
  | .hide => .hide
  | .clearEffects => .clearEffects
  | .forever => .forever

/-- The fields of an instruction are some of those of a patch, in their order. -/
theorem names_fieldMembers_sublist (i : Instruction) :
    (i.fieldMembers.map (·.1)).Sublist Patch.fieldNames := by
  cases i with
  | move steps => exact (Json.names_member_sublist _ _ steps).trans (by decide)
  | turn degrees => exact (Json.names_member_sublist _ _ degrees).trans (by decide)
  | changeColor amount => exact (Json.names_member_sublist _ _ amount).trans (by decide)
  | setColor value => exact (Json.names_member_sublist _ _ value).trans (by decide)
  | changeSizeBy amount => exact (Json.names_member_sublist _ _ amount).trans (by decide)
  | setSizeTo value => exact (Json.names_member_sublist _ _ value).trans (by decide)
  | goto x y =>
    rw [fieldMembers, List.map_append]
    exact ((Json.names_member_sublist _ _ x).append (Json.names_member_sublist _ _ y)).trans
      (by decide)
  | bubble kind message seconds =>
    rw [fieldMembers, List.map_append]
    exact ((Json.names_member_sublist _ _ message).append
      (Json.names_member_sublist _ _ seconds)).trans (by decide)
  | _ => exact List.nil_sublist _

/-- No instruction writes two fields under one name. -/
theorem nodup_fieldMembers (i : Instruction) : (i.fieldMembers.map (·.1)).Nodup :=
  List.Nodup.sublist i.names_fieldMembers_sublist (by decide)

/-- From its tag and its fields an instruction is read back, but for numbers that are not finite. -/
theorem ofTag?_fieldMembers (i : Instruction) :
    ofTag? i.tag (.object i.fieldMembers) = some i.finitePart := by
  have hnodup := i.nodup_fieldMembers
  cases i with
  | bubble kind message seconds =>
    cases kind <;> refine Json.bind_record? hnodup fun field hfield => ?_ <;>
      simp [hfield, fieldMembers, List.lookup_append, Json.lookup_member, Json.optional_float?,
        Json.optional_text?, finitePart]
  | reveal => rfl
  | hide => rfl
  | clearEffects => rfl
  | forever => rfl
  | _ =>
    refine Json.bind_record? hnodup fun field hfield => ?_
    simp [hfield, fieldMembers, List.lookup_append, Json.lookup_member, Json.optional_float?,
      finitePart]

/-- All members of an instruction are readable. -/
theorem membersReadable_fieldMembers (i : Instruction) :
    Json.membersReadable i.fieldMembers = true := by
  cases i with
  | goto x y =>
    rw [fieldMembers, Json.membersReadable_append, Json.membersReadable_number,
      Json.membersReadable_number]
    rfl
  | bubble kind message seconds =>
    rw [fieldMembers, Json.membersReadable_append, Json.membersReadable_number]
    cases message <;> rfl
  | reveal => rfl
  | hide => rfl
  | clearEffects => rfl
  | forever => rfl
  | _ a => exact Json.membersReadable_number _ a

/-- The members of an instruction are read back, whether tags may be numbered or not. -/
theorem ofMembers?_members (i : Instruction) (numbered : Bool) :
    ofMembers? numbered i.members = some i.finitePart := by
  have htype : "type" ∉ i.fieldMembers.map (·.1) := fun hmem =>
    absurd (i.names_fieldMembers_sublist.subset hmem) (by decide)
  have htag : Json.valuesOf "type" i.members = [.text i.tag] := Json.valuesOf_cons_self htype _
  have hfields : i.members.filter (·.1 != "type") = i.fieldMembers :=
    Json.filter_cons_self htype _
  have hreadable : Json.membersReadable i.members = true := i.membersReadable_fieldMembers
  rw [ofMembers?, htag, hfields]
  simp [hreadable, tagOf?, ofTag?_fieldMembers]

/-- An instruction is read back as its finite part. -/
theorem decode_encode (i : Instruction) : decode i.encode = some i.finitePart :=
  i.ofMembers?_members false

end Instruction

/-- A block is read back with its id, which is not the name of any field. -/
theorem Block.decode_encode (b : Block) :
    decode b.encode = some ⟨b.id, b.instruction.finitePart⟩ := by
  have hid : "id" ∉ b.instruction.members.map (·.1) := by
    rw [Instruction.members, List.map_cons, List.mem_cons, not_or]
    exact ⟨show "id" ≠ "type" by decide, fun hmem =>
      absurd (b.instruction.names_fieldMembers_sublist.subset hmem) (by decide)⟩
  rw [encode, decode, Json.valuesOf_cons_self hid, Json.filter_cons_self hid]
  simp [Json.nat?_int b.id.number.toNat_lt, Instruction.ofMembers?_members]

namespace Patch

/-- The patch without the numbers that are not finite. -/
def finitePart (p : Patch) : Patch where
  steps := p.steps.filter Float.isFinite
  degrees := p.degrees.filter Float.isFinite
  x := p.x.filter Float.isFinite
  y := p.y.filter Float.isFinite
  message := p.message
  seconds := p.seconds.filter Float.isFinite
  amount := p.amount.filter Float.isFinite
  value := p.value.filter Float.isFinite

/-- A patch is read back as its finite part. -/
theorem decode_encode (p : Patch) : decode p.encode = some p.finitePart := by
  rw [decode, encode]
  refine Json.bind_record? ?_ fun field hfield => ?_
  · -- the members that are there stand in the order of the fields
    refine List.Nodup.sublist ?_ (show fieldNames.Nodup by decide)
    simp only [List.map_append]
    exact (((((((Json.names_member_sublist _ _ p.steps).append
      (Json.names_member_sublist _ _ p.degrees)).append
      (Json.names_member_sublist _ _ p.x)).append
      (Json.names_member_sublist _ _ p.y)).append
      (Json.names_member_sublist _ _ p.message)).append
      (Json.names_member_sublist _ _ p.seconds)).append
      (Json.names_member_sublist _ _ p.amount)).append
      (Json.names_member_sublist _ _ p.value)
  · simp only [fieldNames, List.forall_mem_cons] at hfield
    simp [hfield, List.lookup_append, Json.lookup_member, Json.optional_float?,
      Json.optional_text?, finitePart]

end Patch

/-! ## Numbers that are all finite -/

/-- All of the numbers are finite. -/
def AllFinite (numbers : List Float) : Prop := ∀ x ∈ numbers, x.isFinite = true

instance (numbers : List Float) : Decidable (AllFinite numbers) :=
  inferInstanceAs (Decidable (∀ x ∈ numbers, x.isFinite = true))

/-- A finite number passes, and so does an absent one. -/
theorem filter_isFinite {x : Option Float} (h : AllFinite x.toList) :
    x.filter Float.isFinite = x := by
  cases x with
  | none => rfl
  | some x =>
    have hx := h x (by simp)
    simp [Option.filter, hx]

theorem Instruction.finitePart_eq {i : Instruction} (h : AllFinite i.numbers) :
    i.finitePart = i := by
  cases i with
  | goto x y =>
    obtain ⟨hx, hy⟩ := List.forall_mem_append.1 h
    rw [finitePart, filter_isFinite hx, filter_isFinite hy]
  | bubble kind message seconds => rw [finitePart, filter_isFinite h]
  | reveal => rfl
  | hide => rfl
  | clearEffects => rfl
  | forever => rfl
  | _ a => rw [finitePart, filter_isFinite h]

/-- The numbers that a patch holds. -/
def Patch.numbers (p : Patch) : List Float :=
  [p.steps, p.degrees, p.x, p.y, p.seconds, p.amount, p.value].reduceOption

theorem Patch.finitePart_eq {p : Patch} (h : AllFinite p.numbers) : p.finitePart = p := by
  have hfield : ∀ x ∈ [p.steps, p.degrees, p.x, p.y, p.seconds, p.amount, p.value],
      x.filter Float.isFinite = x := by
    intro x hx
    apply filter_isFinite
    intro y hy
    apply h
    rw [Patch.numbers, List.reduceOption_mem_iff]
    rwa [← Option.mem_toList.1 hy]
  simp only [List.forall_mem_cons] at hfield
  obtain ⟨hsteps, hdegrees, hx, hy, hseconds, hamount, hvalue, -⟩ := hfield
  rw [finitePart, hsteps, hdegrees, hx, hy, hseconds, hamount, hvalue]

/-! ## Programs, clicks and settings -/

theorem SpriteId.decode_encode (id : SpriteId) : decode id.encode = some id := by
  simp [decode, encode, Json.nat?_int id.number.toNat_lt]

/-- A block with finite numbers is read back. -/
theorem Block.decode_encode_of_finite {b : Block} (h : AllFinite b.instruction.numbers) :
    decode b.encode = some b := by
  rw [decode_encode, Instruction.finitePart_eq h]

/-- A sprite with finite numbers, also in its script, is read back. -/
theorem Sprite.decode_encode {s : Sprite} (h : AllFinite s.numbers) :
    decode s.encode = some s := by
  obtain ⟨hx, hy, hscript⟩ : s.x.isFinite = true ∧ s.y.isFinite = true ∧
      AllFinite (s.script.flatMap (·.instruction.numbers)) := by
    simpa only [AllFinite, numbers, List.forall_mem_cons] using h
  have hblocks : Json.list? Block.decode (.array (s.script.map Block.encode)) = some s.script := by
    refine Json.list?_map fun b hb => Block.decode_encode_of_finite fun x hmem => ?_
    exact hscript x (List.mem_flatMap.2 ⟨b, hb, hmem⟩)
  rw [decode, encode]
  refine Json.bind_record? (by simp) fun field hfield => ?_
  simp [hfield, lookup_cons_eq, Json.required_some, Json.withDefault_some,
    SpriteId.decode_encode, Json.text?_text, Json.float?_ofFloat hx, Json.float?_ofFloat hy,
    hblocks]

theorem StageSize.decode_encode {s : StageSize} (hwidth : s.width.isFinite = true)
    (hheight : s.height.isFinite = true) : decode s.encode = some s := by
  rw [decode, encode]
  refine Json.bind_record? (by simp) fun field hfield => ?_
  simp [hfield, lookup_cons_eq, Json.required_some, Json.float?_ofFloat hwidth,
    Json.float?_ofFloat hheight]

/-- The numbers that a program holds. -/
def Program.numbers (p : Program) : List Float :=
  p.stage.width :: p.stage.height :: p.sprites.flatMap Sprite.numbers

/-- A program with finite numbers is read back. -/
theorem Program.decode_encode {p : Program} (h : AllFinite p.numbers) :
    decode p.encode = some p := by
  obtain ⟨hwidth, hheight, hnumbers⟩ : p.stage.width.isFinite = true ∧
      p.stage.height.isFinite = true ∧ AllFinite (p.sprites.flatMap Sprite.numbers) := by
    simpa only [AllFinite, numbers, List.forall_mem_cons] using h
  have hsprites : Json.list? Sprite.decode (.array (p.sprites.map Sprite.encode)) =
      some p.sprites := by
    refine Json.list?_map fun s hs => Sprite.decode_encode fun x hmem => ?_
    exact hnumbers x (List.mem_flatMap.2 ⟨s, hs, hmem⟩)
  rw [decode, encode]
  refine Json.bind_record? (by simp) fun field hfield => ?_
  simp [hfield, lookup_cons_eq, Json.required_some, Json.withDefault_some,
    StageSize.decode_encode hwidth hheight, hsprites]

/-- A click is read back but for numbers of its instruction that are not finite. -/
theorem Click.decode_encode (c : Click) :
    decode c.encode = some { c with instruction := c.instruction.finitePart } := by
  rw [decode, encode]
  refine Json.bind_record? (by simp) fun field hfield => ?_
  simp [hfield, lookup_cons_eq, Json.required_some, SpriteId.decode_encode,
    Instruction.decode_encode, Json.nat?_int c.stamp.toNat_lt]

/-- Key bindings are read back, whatever they name. -/
theorem KeyBindings.decode_encode (k : KeyBindings) : decode k.encode = some k := by
  rw [decode, encode]
  refine Json.bind_record? (show fieldNames.Nodup by decide) fun field hfield => ?_
  simp only [fieldNames, List.forall_mem_cons, List.map_cons, List.zip_cons_cons] at hfield
  simp [hfield, lookup_cons_eq, Json.withDefault_some, Json.text?_text]

/-- The numbers that playback settings hold, times apart. -/
def PlaybackSettings.numbers (s : PlaybackSettings) : List Float :=
  [s.swapDistance, s.bubbleSeconds]

/-- The tempo is read back if its numbers are finite. -/
theorem PlaybackSettings.decode_encode {s : PlaybackSettings} (h : AllFinite s.numbers) :
    decode s.encode = some s := by
  obtain ⟨hdistance, hseconds⟩ :
      s.swapDistance.isFinite = true ∧ s.bubbleSeconds.isFinite = true := by
    simpa [AllFinite, numbers] using h
  rw [decode, encode]
  refine Json.bind_record? (by simp) fun field hfield => ?_
  simp only [fieldNames, List.forall_mem_cons] at hfield
  simp [hfield, lookup_cons_eq, Json.withDefault_some,
    Json.nat?_int s.tickMillis.toNat_lt, Json.nat?_int s.highlightMillis.toNat_lt,
    Json.float?_ofFloat hdistance, Json.float?_ofFloat hseconds]

/-- Settings are read back if the numbers of the tempo are finite. -/
theorem Settings.decode_encode {s : Settings} (h : AllFinite s.playback.numbers) :
    decode s.encode = some s := by
  rw [decode, encode]
  refine Json.bind_record? (by simp) fun field hfield => ?_
  simp [hfield, lookup_cons_eq, Json.withDefault_some, KeyBindings.decode_encode,
    PlaybackSettings.decode_encode h]

/-- **What is written is read back.** Programs, blocks, instructions, patches, clicks and settings
whose numbers are all finite are decoded from their JSON values as they were. Blocks, instructions
and patches with other numbers are decoded as they were but for those numbers, whose fields come
back absent. -/
theorem format_round_trips :
    (∀ p : Program, AllFinite p.numbers → Program.decode p.encode = some p) ∧
    (∀ b : Block, AllFinite b.instruction.numbers → Block.decode b.encode = some b) ∧
    (∀ i : Instruction, AllFinite i.numbers → Instruction.decode i.encode = some i) ∧
    (∀ p : Patch, AllFinite p.numbers → Patch.decode p.encode = some p) ∧
    (∀ c : Click, AllFinite c.instruction.numbers → Click.decode c.encode = some c) ∧
    (∀ s : Settings, AllFinite s.playback.numbers → Settings.decode s.encode = some s) ∧
    (∀ b : Block, Block.decode b.encode = some ⟨b.id, b.instruction.finitePart⟩) ∧
    (∀ i : Instruction, Instruction.decode i.encode = some i.finitePart) ∧
    ∀ p : Patch, Patch.decode p.encode = some p.finitePart := by
  refine ⟨fun p => Program.decode_encode, fun b => Block.decode_encode_of_finite, ?_, ?_, ?_,
    fun s => Settings.decode_encode, Block.decode_encode, Instruction.decode_encode,
    Patch.decode_encode⟩
  · intro i h
    rw [Instruction.decode_encode, Instruction.finitePart_eq h]
  · intro p h
    rw [Patch.decode_encode, Patch.finitePart_eq h]
  · intro c h
    rw [Click.decode_encode, Instruction.finitePart_eq h]

/-- The program of two sprites that meet, parts of it, a click on one of its blocks, and the usual
settings. -/
theorem format_round_trips_encounter :
    let turn : Instruction := .goto (some 5.0) none
    (AllFinite Program.encounter.numbers ∧
      Program.decode Program.encounter.encode = some .encounter) ∧
    (AllFinite turn.numbers ∧ Block.decode (Block.encode ⟨⟨7⟩, turn⟩) = some ⟨⟨7⟩, turn⟩ ∧
      Instruction.decode turn.encode = some turn ∧
      Click.decode (Click.encode ⟨⟨1⟩, turn, 9⟩) = some ⟨⟨1⟩, turn, 9⟩) ∧
    (AllFinite (Patch.numbers { seconds := some 2.0 }) ∧
      Patch.decode (Patch.encode { seconds := some 2.0 }) = some { seconds := some 2.0 }) ∧
    (AllFinite (PlaybackSettings.numbers {}) ∧ Settings.decode (Settings.encode {}) = some {}) := by
  intro turn
  obtain ⟨hprogram, hblock, hinstruction, hpatch, hclick, hsettings, -⟩ := format_round_trips
  have hfinite : AllFinite Program.encounter.numbers := by decide
  have hturn : AllFinite turn.numbers := by decide
  have hseconds : AllFinite (Patch.numbers { seconds := some 2.0 }) := by decide
  have husual : AllFinite (PlaybackSettings.numbers {}) := by decide
  exact ⟨⟨hfinite, hprogram _ hfinite⟩,
    ⟨hturn, hblock _ hturn, hinstruction _ hturn, hclick ⟨⟨1⟩, turn, 9⟩ hturn⟩,
    ⟨hseconds, hpatch _ hseconds⟩, husual, hsettings {} husual⟩

end SpriteStage
