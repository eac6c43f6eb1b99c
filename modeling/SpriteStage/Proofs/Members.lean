import SpriteStage.Proofs.RoundTrip

/-!
# Members go by their names

An object is decoded by the members whose names are known to what it is decoded to
(`members_read_by_name`): their order and all other members do not matter, one that may be left out
leaves only its own field absent or at its default, and one that is given twice spoils the object.

`Json.ReadsByName` says so of a decoder. Records have it because their names are always the same
(`Json.ReadsByName.of_record`). An instruction has it although the tag among its members decides
which other names are known, and a block because its id is taken out before its instruction is read.
-/

namespace SpriteStage

namespace Json

/-! ## The values of a name -/

theorem valuesOf_append (name : String) (l m : List (String × Json)) :
    valuesOf name (l ++ m) = valuesOf name l ++ valuesOf name m := by
  simp [valuesOf]

/-- A name that no member has leads to nothing. -/
theorem valuesOf_eq_nil {name : String} {members : List (String × Json)}
    (h : ∀ m ∈ members, m.1 ≠ name) : valuesOf name members = [] := by
  rw [valuesOf, List.map_eq_nil_iff, List.filter_eq_nil_iff]
  intro m hm heq
  exact h m hm (beq_iff_eq.1 heq)

/-- In another order of the members there are the same values. -/
theorem valuesOf_perm {members members' : List (String × Json)} (h : members'.Perm members)
    (name : String) : (valuesOf name members').Perm (valuesOf name members) :=
  (h.filter _).map _

/-- A name that comes at most once keeps its value in any order and next to any other names. -/
theorem valuesOf_of_perm {name : String} {members members' extra : List (String × Json)}
    (hperm : members'.Perm (members ++ extra)) (hextra : ∀ m ∈ extra, m.1 ≠ name)
    (honce : (valuesOf name members).length ≤ 1) :
    valuesOf name members' = valuesOf name members := by
  have h := valuesOf_perm hperm name
  rw [valuesOf_append, valuesOf_eq_nil hextra, List.append_nil] at h
  match hvalues : valuesOf name members, honce with
  | [], _ => exact List.perm_nil.1 (hvalues ▸ h)
  | [j], _ => exact List.perm_singleton.1 (hvalues ▸ h)

/-- The members that are left when those of some names are left out. -/
def leaveOut (dropped : List String) (members : List (String × Json)) : List (String × Json) :=
  members.filter (·.1 ∉ dropped)

/-- Members that are left out take their values along, and no others. -/
theorem valuesOf_leaveOut (dropped : List String) (name : String)
    (members : List (String × Json)) :
    valuesOf name (leaveOut dropped members) =
      if name ∈ dropped then [] else valuesOf name members := by
  split
  next hname =>
    apply valuesOf_eq_nil
    rintro m hm rfl
    exact of_decide_eq_true (List.mem_filter.1 hm).2 hname
  next hname =>
    rw [valuesOf, leaveOut, List.filter_filter]
    congr 1
    apply List.filter_congr
    intro m _
    by_cases heq : m.1 = name
    · simp [heq, hname]
    · simp [heq]

/-- Leaving out one name does not touch the others. -/
theorem valuesOf_filter_ne {name other : String} (h : name ≠ other)
    (members : List (String × Json)) :
    valuesOf name (members.filter (·.1 != other)) = valuesOf name members := by
  rw [valuesOf, List.filter_filter]
  congr 1
  apply List.filter_congr
  intro m _
  by_cases heq : m.1 = name
  · simp [heq, h]
  · simp [heq]

theorem membersReadable_iff (members : List (String × Json)) :
    membersReadable members = true ↔ ∀ m ∈ members, m.2.isReadable = true := by
  induction members with
  | nil => simp [membersReadable]
  | cons m rest ih => simp [membersReadable, ih]

/-! ## The fields of a record -/

/-- The fields of a record without those of some names. -/
def withoutFields (dropped : List String) (field : String → Option Json) (name : String) :
    Option Json :=
  if name ∈ dropped then none else field name

/-- A record is read from an object iff no name of its fields comes twice there. -/
theorem record?_object_eq_some_iff {names : List String} {members : List (String × Json)}
    {field : String → Option Json} :
    record? names (.object members) = some field ↔
      (∀ name ∈ names, (valuesOf name members).length ≤ 1) ∧
        field = fun name => if name ∈ names then (valuesOf name members).head? else none := by
  rw [record?, Option.ite_none_right_eq_some, Option.some.injEq, List.all_eq_true,
    eq_comm (b := field)]
  simp only [decide_eq_true_eq]

/-- A record depends only on the values of its names. -/
theorem record?_object_congr {names : List String} {members members' : List (String × Json)}
    (h : ∀ name ∈ names, valuesOf name members' = valuesOf name members) :
    record? names (.object members') = record? names (.object members) := by
  ext field
  rw [record?_object_eq_some_iff, record?_object_eq_some_iff]
  refine and_congr (forall₂_congr fun name hname => by rw [h name hname]) ?_
  refine Eq.congr_right (funext fun name => ?_)
  split
  next hname => rw [h name hname]
  next => rfl

/-- Members that are left out are fields that are absent. -/
theorem record?_leaveOut {names : List String} {members : List (String × Json)}
    {field : String → Option Json} (h : record? names (.object members) = some field)
    (dropped : List String) :
    record? names (.object (leaveOut dropped members)) = some (withoutFields dropped field) := by
  obtain ⟨honce, rfl⟩ := record?_object_eq_some_iff.1 h
  rw [record?_object_eq_some_iff]
  constructor
  · intro name hname
    rw [valuesOf_leaveOut]
    split
    · exact Nat.zero_le _
    · exact honce name hname
  · funext name
    rw [withoutFields, valuesOf_leaveOut]
    by_cases hname : name ∈ dropped <;> simp [hname]

/-- A field whose name comes twice spoils the record. -/
theorem record?_eq_none {names : List String} {members : List (String × Json)} {name : String}
    (hname : name ∈ names) (htwice : 2 ≤ (valuesOf name members).length) :
    record? names (.object members) = none := by
  rw [Option.eq_none_iff_forall_ne_some]
  intro field h
  have honce := (record?_object_eq_some_iff.1 h).1 name hname
  omega

/-! ## Decoders that go by names -/

/-- A decoder of objects goes by the names of their members: by those that are `known` to the value
it gives, of which all but the `required` ones may be left out. -/
structure ReadsByName (decode : List (String × Json) → Option α) (known : α → List String)
    (required : List String) (without : List String → α → α) : Prop where
  /-- In any order and with any other members added, an object has the value that it had. -/
  of_perm : ∀ {members v}, decode members = some v → ∀ {extra members'},
    (∀ m ∈ extra, m.1 ∉ known v ∧ m.2.isReadable = true) → members'.Perm (members ++ extra) →
    decode members' = some v
  /-- Leaving members out leaves the value without the fields of their names. -/
  of_leaveOut : ∀ {members v}, decode members = some v → ∀ {dropped},
    (∀ name ∈ dropped, name ∉ required) →
    decode (leaveOut dropped members) = some (without dropped v)
  /-- Giving a known member twice leaves no value, whatever else is added. -/
  of_twice : ∀ {members v}, decode members = some v → ∀ {extra members' name},
    members'.Perm (members ++ extra) → name ∈ known v → 2 ≤ (valuesOf name members').length →
    decode members' = none

/-- A record goes by the names of its fields, if what is made of its fields does so. -/
theorem ReadsByName.of_record {names required : List String}
    {read : (String → Option Json) → Option α} {without : List String → α → α}
    (hread : ∀ {field v}, read field = some v → ∀ {dropped}, (∀ name ∈ dropped, name ∉ required) →
      read (withoutFields dropped field) = some (without dropped v)) :
    ReadsByName (fun members => (record? names (.object members)).bind read) (fun _ => names)
      required without where
  of_perm {members v} h {extra members'} hextra hperm := by
    rw [← h]
    obtain ⟨field, hfield, -⟩ := Option.bind_eq_some_iff.1 h
    refine congrArg (Option.bind · read) (record?_object_congr fun name hname => ?_)
    refine valuesOf_of_perm hperm ?_ ((record?_object_eq_some_iff.1 hfield).1 name hname)
    rintro m hm rfl
    exact (hextra m hm).1 hname
  of_leaveOut {members v} h {dropped} hdropped := by
    obtain ⟨field, hfield, hv⟩ := Option.bind_eq_some_iff.1 h
    rw [record?_leaveOut hfield, Option.bind_some, hread hv hdropped]
  of_twice {members v} _ {extra members' name} _ hname htwice := by
    rw [record?_eq_none hname htwice, Option.bind_none]

/-! ## Fields that are left out -/

/-- The value of a field or, if its name is among those left out, what the field is then. -/
def unlessDropped (dropped : List String) (name : String) (default value : α) : α :=
  if name ∈ dropped then default else value

variable {dropped required : List String} {name : String} {field : String → Option Json}

/-- A field that has to be there is read, and then the rest. -/
theorem bind_required_withoutFields {decode : Json → Option α} {next next' : α → Option β}
    {answer answer' : β} (hdropped : ∀ name ∈ dropped, name ∉ required) (hname : name ∈ required)
    (h : (Json.required decode (field name)).bind next = some answer)
    (hnext : ∀ {value}, next value = some answer → next' value = some answer') :
    (Json.required decode (withoutFields dropped field name)).bind next' = some answer' := by
  rw [withoutFields, if_neg fun hmem => hdropped name hmem hname]
  obtain ⟨value, hvalue, h⟩ := Option.bind_eq_some_iff.1 h
  rw [hvalue, Option.bind_some, hnext h]

/-- A field with a default is read, and then the rest. -/
theorem bind_withDefault_withoutFields {default : α} {decode : Json → Option α}
    {next next' : α → Option β} {answer answer' : β}
    (h : (withDefault default decode (field name)).bind next = some answer)
    (hnext : ∀ {value}, next value = some answer →
      next' (unlessDropped dropped name default value) = some answer') :
    (withDefault default decode (withoutFields dropped field name)).bind next' = some answer' := by
  obtain ⟨value, hvalue, h⟩ := Option.bind_eq_some_iff.1 h
  have hfield : withDefault default decode (withoutFields dropped field name) =
      some (unlessDropped dropped name default value) := by
    rw [withoutFields, unlessDropped]
    split
    · rfl
    · exact hvalue
  rw [hfield, Option.bind_some, hnext h]

/-- An optional field that is left out is absent. -/
theorem optional_withoutFields {value : Option α} {decode : Json → Option α}
    (h : optional decode (field name) = some value) (dropped : List String) :
    optional decode (withoutFields dropped field name) =
      some (unlessDropped dropped name none value) := by
  rw [withoutFields, unlessDropped]
  split
  · rfl
  · exact h

end Json

open Json (unlessDropped)

/-! ## Instructions -/

namespace Instruction

/-- The names of the fields of an instruction. -/
def fieldNames : Instruction → List String
  | .move _ => ["steps"]
  | .turn _ => ["degrees"]
  | .goto _ _ => ["x", "y"]
  | .bubble .. => ["message", "seconds"]
  | .changeColor _ | .changeSizeBy _ => ["amount"]
  | .setColor _ | .setSizeTo _ => ["value"]
  | .reveal | .hide | .clearEffects | .forever => []

/-- The instruction with the fields of some names absent. -/
def without (dropped : List String) : Instruction → Instruction
  | .move steps => .move (unlessDropped dropped "steps" none steps)
  | .turn degrees => .turn (unlessDropped dropped "degrees" none degrees)
  | .goto x y => .goto (unlessDropped dropped "x" none x) (unlessDropped dropped "y" none y)
  | .bubble kind message seconds =>
    .bubble kind (unlessDropped dropped "message" none message)
      (unlessDropped dropped "seconds" none seconds)
  | .changeColor amount => .changeColor (unlessDropped dropped "amount" none amount)
  | .setColor value => .setColor (unlessDropped dropped "value" none value)
  | .changeSizeBy amount => .changeSizeBy (unlessDropped dropped "amount" none amount)
  | .setSizeTo value => .setSizeTo (unlessDropped dropped "value" none value)
  | .reveal => .reveal
  | .hide => .hide
  | .clearEffects => .clearEffects
  | .forever => .forever

/-- The fields of a record hold the numbers and texts of the instruction. -/
def IsReadFrom (field : String → Option Json) : Instruction → Prop
  | .move steps => Json.optional Json.float? (field "steps") = some steps
  | .turn degrees => Json.optional Json.float? (field "degrees") = some degrees
  | .goto x y =>
    Json.optional Json.float? (field "x") = some x ∧ Json.optional Json.float? (field "y") = some y
  | .bubble _ message seconds =>
    Json.optional Json.text? (field "message") = some message ∧
      Json.optional Json.float? (field "seconds") = some seconds
  | .changeColor amount | .changeSizeBy amount =>
    Json.optional Json.float? (field "amount") = some amount
  | .setColor value | .setSizeTo value => Json.optional Json.float? (field "value") = some value
  | .reveal | .hide | .clearEffects | .forever => True

/-- The tag decides which instruction is read, and its fields are those of the instruction. -/
theorem ofTag?_eq_some_iff {tag : String} {fields : Json} {i : Instruction} :
    ofTag? tag fields = some i ↔
      tag = i.tag ∧ ∃ field, fields.record? i.fieldNames = some field ∧ i.IsReadFrom field := by
  constructor
  · intro h
    unfold ofTag? at h
    split at h
    case h_14 => cases h
    -- without fields
    case h_6 | h_7 | h_10 | h_13 =>
      obtain ⟨field, hfield, rfl⟩ := Option.map_eq_some_iff.1 h
      exact ⟨rfl, field, hfield, trivial⟩
    -- with two fields
    case h_3 | h_4 | h_5 =>
      obtain ⟨field, hfield, h⟩ := Option.bind_eq_some_iff.1 h
      obtain ⟨a, ha, h⟩ := Option.bind_eq_some_iff.1 h
      obtain ⟨b, hb, h⟩ := Option.bind_eq_some_iff.1 h
      cases h
      exact ⟨rfl, field, hfield, ha, hb⟩
    -- with one field
    all_goals
      obtain ⟨field, hfield, h⟩ := Option.bind_eq_some_iff.1 h
      obtain ⟨a, ha, h⟩ := Option.bind_eq_some_iff.1 h
      cases h
      exact ⟨rfl, field, hfield, ha⟩
  · rintro ⟨rfl, field, hfield, hread⟩
    cases i with
    | bubble kind message seconds => cases kind <;> simp_all [fieldNames, IsReadFrom, ofTag?, tag]
    | _ => simp_all [fieldNames, IsReadFrom, ofTag?, tag]

/-- What is read goes with the fields that are left out. -/
theorem IsReadFrom.without {field : String → Option Json} {i : Instruction}
    (h : i.IsReadFrom field) (dropped : List String) :
    (i.without dropped).IsReadFrom (Json.withoutFields dropped field) := by
  cases i with
  | goto x y =>
    exact ⟨Json.optional_withoutFields h.1 dropped, Json.optional_withoutFields h.2 dropped⟩
  | bubble kind message seconds =>
    exact ⟨Json.optional_withoutFields h.1 dropped, Json.optional_withoutFields h.2 dropped⟩
  | reveal => trivial
  | hide => trivial
  | clearEffects => trivial
  | forever => trivial
  | _ a => exact Json.optional_withoutFields h dropped

theorem tag_without (dropped : List String) (i : Instruction) :
    (i.without dropped).tag = i.tag := by
  cases i with
  | bubble kind => cases kind <;> rfl
  | _ => rfl

theorem fieldNames_without (dropped : List String) (i : Instruction) :
    (i.without dropped).fieldNames = i.fieldNames := by
  cases i <;> rfl

/-- A tag with no fields at all is the instruction with its fields absent. -/
theorem ofTag?_tag_nil (i : Instruction) :
    ofTag? i.tag (.array []) = some (i.without i.fieldNames) := by
  cases i with
  | bubble kind => cases kind <;> rfl
  | _ => rfl

/-- Instructions of one tag have the same fields. -/
theorem fieldNames_eq_of_tag {i j : Instruction} (h : i.tag = j.tag) :
    i.fieldNames = j.fieldNames := by
  have hbare : i.without i.fieldNames = j.without j.fieldNames :=
    Option.some.inj (by rw [← ofTag?_tag_nil, h, ofTag?_tag_nil])
  rw [← fieldNames_without i.fieldNames i, hbare, fieldNames_without]

/-- The name of the kind is not that of a field. -/
theorem type_notMem_fieldNames (i : Instruction) : "type" ∉ i.fieldNames := by
  cases i <;> simp [fieldNames]

/-- An instruction is read from members that give one tag, its own, and its fields. -/
theorem ofMembers?_eq_some_iff {numbered : Bool} {members : List (String × Json)}
    {i : Instruction} :
    ofMembers? numbered members = some i ↔
      Json.membersReadable members = true ∧
      (∃ j, Json.valuesOf "type" members = [j] ∧ tagOf? numbered j = some i.tag) ∧
      ∃ field, Json.record? i.fieldNames (.object members) = some field ∧ i.IsReadFrom field := by
  have hrecord : Json.record? i.fieldNames (.object (members.filter (·.1 != "type"))) =
      Json.record? i.fieldNames (.object members) := by
    refine Json.record?_object_congr fun name hname => Json.valuesOf_filter_ne ?_ members
    rintro rfl
    exact i.type_notMem_fieldNames hname
  rw [← hrecord]
  constructor
  · intro h
    unfold ofMembers? at h
    split at h
    next j hj =>
      split at h
      next hreadable =>
        obtain ⟨tag, htag, h⟩ := Option.bind_eq_some_iff.1 h
        obtain ⟨rfl, hfields⟩ := ofTag?_eq_some_iff.1 h
        exact ⟨hreadable, ⟨j, hj, htag⟩, hfields⟩
      next => cases h
    next => cases h
  · rintro ⟨hreadable, ⟨j, hj, htag⟩, hfields⟩
    have h : ofTag? i.tag (.object (members.filter (·.1 != "type"))) = some i :=
      ofTag?_eq_some_iff.2 ⟨rfl, hfields⟩
    rw [ofMembers?, hj]
    simp [hreadable, htag, h]

/-- The names that an object of the instruction may have. -/
def memberNames (i : Instruction) : List String := "type" :: i.fieldNames

/-- Instructions go by the names of their members. -/
theorem readsByName (numbered : Bool) :
    Json.ReadsByName (ofMembers? numbered) memberNames ["type"] without where
  of_perm {members i} h {extra members'} hextra hperm := by
    obtain ⟨hreadable, ⟨j, hj, htag⟩, field, hfield, hread⟩ := ofMembers?_eq_some_iff.1 h
    have hvalues : ∀ name ∈ i.memberNames, (Json.valuesOf name members).length ≤ 1 →
        Json.valuesOf name members' = Json.valuesOf name members := by
      intro name hname honce
      refine Json.valuesOf_of_perm hperm ?_ honce
      rintro m hm rfl
      exact (hextra m hm).1 hname
    refine ofMembers?_eq_some_iff.2 ⟨?_, ⟨j, ?_, htag⟩, field, ?_, hread⟩
    · rw [Json.membersReadable_iff] at hreadable ⊢
      intro m hm
      rcases List.mem_append.1 (hperm.mem_iff.1 hm) with hm | hm
      · exact hreadable m hm
      · exact (hextra m hm).2
    · rw [hvalues "type" List.mem_cons_self (by rw [hj]; rfl), hj]
    · rw [← hfield]
      refine Json.record?_object_congr fun name hname => ?_
      exact hvalues name (List.mem_cons_of_mem _ hname)
        ((Json.record?_object_eq_some_iff.1 hfield).1 name hname)
  of_leaveOut {members i} h {dropped} hdropped := by
    obtain ⟨hreadable, ⟨j, hj, htag⟩, field, hfield, hread⟩ := ofMembers?_eq_some_iff.1 h
    refine ofMembers?_eq_some_iff.2 ⟨?_, ⟨j, ?_, ?_⟩, Json.withoutFields dropped field, ?_,
      hread.without dropped⟩
    · rw [Json.membersReadable_iff] at hreadable ⊢
      exact fun m hm => hreadable m (List.mem_of_mem_filter hm)
    · rw [Json.valuesOf_leaveOut, if_neg fun hmem => hdropped _ hmem (List.mem_singleton.2 rfl), hj]
    · rw [tag_without, htag]
    · rw [fieldNames_without, Json.record?_leaveOut hfield]
  of_twice {members i} h {extra members' name} hperm hname htwice := by
    obtain ⟨-, ⟨j, hj, htag⟩, -⟩ := ofMembers?_eq_some_iff.1 h
    rw [Option.eq_none_iff_forall_ne_some]
    intro i' h'
    obtain ⟨-, ⟨j', hj', htag'⟩, field, hfield, -⟩ := ofMembers?_eq_some_iff.1 h'
    rcases List.mem_cons.1 hname with rfl | hname
    · rw [hj', List.length_singleton] at htwice
      omega
    · -- the one tag among the members is that of the object, so the same names are known
      have hmem : j ∈ Json.valuesOf "type" members' := by
        rw [(Json.valuesOf_perm hperm _).mem_iff, Json.valuesOf_append, hj]
        exact List.mem_append_left _ List.mem_cons_self
      obtain rfl : j = j' := by simpa [hj'] using hmem
      have htags : i'.tag = i.tag := Option.some.inj (htag'.symm.trans htag)
      rw [Json.record?_eq_none (fieldNames_eq_of_tag htags ▸ hname) htwice] at hfield
      cases hfield

end Instruction

/-! ## Blocks -/

namespace Block

/-- A block is read from members that give one id and, next to it, its instruction. -/
theorem decode_object_eq_some_iff {members : List (String × Json)} {b : Block} :
    decode (.object members) = some b ↔
      (∃ j, Json.valuesOf "id" members = [j] ∧
        ∃ n, j.nat? UInt64.size = some n ∧ b.id = ⟨n.toUInt64⟩) ∧
      Instruction.ofMembers? true (members.filter (·.1 != "id")) = some b.instruction := by
  constructor
  · intro h
    rw [decode] at h
    split at h
    next j hj =>
      obtain ⟨n, hn, h⟩ := Option.bind_eq_some_iff.1 h
      obtain ⟨i, hi, h⟩ := Option.bind_eq_some_iff.1 h
      cases h
      exact ⟨⟨j, hj, n, hn, rfl⟩, hi⟩
    next => cases h
  · rintro ⟨⟨j, hj, n, hn, hid⟩, hinstruction⟩
    rw [decode, hj]
    simp [hn, hinstruction, ← hid]

/-- The names that an object of the block may have. -/
def memberNames (b : Block) : List String := "id" :: b.instruction.memberNames

/-- The block with the fields of some names absent. -/
def without (dropped : List String) (b : Block) : Block :=
  { b with instruction := b.instruction.without dropped }

/-- Blocks go by the names of their members. -/
theorem readsByName :
    Json.ReadsByName (fun members => decode (.object members)) memberNames ["id", "type"]
      without where
  of_perm {members b} h {extra members'} hextra hperm := by
    obtain ⟨⟨j, hj, hid⟩, hinstruction⟩ := decode_object_eq_some_iff.1 h
    have hother : ∀ m ∈ extra, m.1 ≠ "id" := by
      intro m hm heq
      exact (hextra m hm).1 (heq ▸ List.mem_cons_self)
    refine decode_object_eq_some_iff.2 ⟨⟨j, ?_, hid⟩, ?_⟩
    · rw [Json.valuesOf_of_perm hperm hother (by rw [hj]; rfl), hj]
    · refine (Instruction.readsByName true).of_perm hinstruction (fun m hm => ?_)
        (List.filter_append .. ▸ hperm.filter _)
      have hm := hextra m (List.mem_of_mem_filter hm)
      exact ⟨fun hname => hm.1 (List.mem_cons_of_mem _ hname), hm.2⟩
  of_leaveOut {members b} h {dropped} hdropped := by
    obtain ⟨⟨j, hj, hid⟩, hinstruction⟩ := decode_object_eq_some_iff.1 h
    refine decode_object_eq_some_iff.2 ⟨⟨j, ?_, hid⟩, ?_⟩
    · rw [Json.valuesOf_leaveOut, if_neg fun hmem => hdropped _ hmem List.mem_cons_self, hj]
    · rw [Json.leaveOut, List.filter_comm]
      refine (Instruction.readsByName true).of_leaveOut hinstruction fun name hname htype => ?_
      exact hdropped name hname (List.mem_cons_of_mem _ htype)
  of_twice {members b} h {extra members' name} hperm hname htwice := by
    obtain ⟨-, hinstruction⟩ := decode_object_eq_some_iff.1 h
    rw [Option.eq_none_iff_forall_ne_some]
    intro b' h'
    obtain ⟨⟨j, hj, -⟩, hinstruction'⟩ := decode_object_eq_some_iff.1 h'
    by_cases hid : name = "id"
    · rw [hid, hj, List.length_singleton] at htwice
      omega
    · have hname := (List.mem_cons.1 hname).resolve_left hid
      rw [← Json.valuesOf_filter_ne hid] at htwice
      have hnone := (Instruction.readsByName true).of_twice hinstruction
        (List.filter_append .. ▸ hperm.filter _) hname htwice
      rw [hnone] at hinstruction'
      cases hinstruction'

end Block

/-! ## Records -/

/-- The sprite without its script, if that is left out. -/
def Sprite.without (dropped : List String) (s : Sprite) : Sprite :=
  { s with script := unlessDropped dropped "animations" [] s.script }

/-- The program with a stage of the usual size, if the stage is left out. -/
def Program.without (dropped : List String) (p : Program) : Program :=
  { p with stage := unlessDropped dropped "stage" {} p.stage }

/-- The bindings with the usual keys for those that are left out. -/
def KeyBindings.without (dropped : List String) (k : KeyBindings) : KeyBindings where
  togglePlay := unlessDropped dropped "toggle_play" "Space" k.togglePlay
  nextSprite := unlessDropped dropped "next_sprite" "Tab" k.nextSprite
  newSprite := unlessDropped dropped "new_sprite" "n" k.newSprite
  blockUp := unlessDropped dropped "block_up" "Up" k.blockUp
  blockDown := unlessDropped dropped "block_down" "Down" k.blockDown
  palettePrevious := unlessDropped dropped "palette_prev" "Left" k.palettePrevious
  paletteNext := unlessDropped dropped "palette_next" "Right" k.paletteNext
  addBlock := unlessDropped dropped "add_block" "a" k.addBlock
  removeBlock := unlessDropped dropped "remove_block" "d" k.removeBlock
  increase := unlessDropped dropped "increase" "+" k.increase
  decrease := unlessDropped dropped "decrease" "-" k.decrease
  clickBlock := unlessDropped dropped "click_block" "Enter" k.clickBlock
  quit := unlessDropped dropped "quit" "q" k.quit
  fullscreen := unlessDropped dropped "fullscreen" "F11" k.fullscreen

/-- The playback settings with the usual ones for those that are left out. -/
def PlaybackSettings.without (dropped : List String) (s : PlaybackSettings) :
    PlaybackSettings where
  tickMillis := unlessDropped dropped "tick_interval_ms" 500 s.tickMillis
  swapDistance := unlessDropped dropped "collision_distance" 40.0 s.swapDistance
  highlightMillis := unlessDropped dropped "highlight_ms" 600 s.highlightMillis
  bubbleSeconds := unlessDropped dropped "default_bubble_seconds" 2.0 s.bubbleSeconds

/-- The settings with the usual ones for a part that is left out. -/
def Settings.without (dropped : List String) (s : Settings) : Settings where
  keys := unlessDropped dropped "key_bindings" {} s.keys
  playback := unlessDropped dropped "engine" {} s.playback

/-- Sprites go by the names of their members, and only the script may be left out. -/
theorem Sprite.readsByName :
    Json.ReadsByName (fun members => decode (.object members))
      (fun _ => ["id", "name", "x", "y", "animations"]) ["id", "name", "x", "y"] without := by
  refine Json.ReadsByName.of_record fun {field s} h {dropped} hdropped => ?_
  iterate 4 refine Json.bind_required_withoutFields hdropped (by simp) h fun h => ?_
  refine Json.bind_withDefault_withoutFields h fun h => ?_
  cases h
  rfl

/-- The size of a stage goes by its two names, and both have to be there. -/
theorem StageSize.readsByName :
    Json.ReadsByName (fun members => decode (.object members)) (fun _ => ["width", "height"])
      ["width", "height"] (fun _ s => s) := by
  refine Json.ReadsByName.of_record fun {field s} h {dropped} hdropped => ?_
  iterate 2 refine Json.bind_required_withoutFields hdropped (by simp) h fun h => ?_
  cases h
  rfl

/-- Programs go by the names of their members, and only the stage may be left out. -/
theorem Program.readsByName :
    Json.ReadsByName (fun members => decode (.object members)) (fun _ => ["stage", "sprites"])
      ["sprites"] without := by
  refine Json.ReadsByName.of_record fun {field p} h {dropped} hdropped => ?_
  refine Json.bind_withDefault_withoutFields h fun h => ?_
  refine Json.bind_required_withoutFields hdropped (by simp) h fun h => ?_
  cases h
  rfl

/-- Key bindings go by their names, and any of them may be left out. -/
theorem KeyBindings.readsByName :
    Json.ReadsByName (fun members => decode (.object members)) (fun _ => fieldNames) []
      without := by
  refine Json.ReadsByName.of_record fun {field k} h {dropped} _ => ?_
  iterate 14 refine Json.bind_withDefault_withoutFields h fun h => ?_
  cases h
  rfl

/-- The tempo goes by its names, and any of them may be left out. -/
theorem PlaybackSettings.readsByName :
    Json.ReadsByName (fun members => decode (.object members)) (fun _ => fieldNames) []
      without := by
  refine Json.ReadsByName.of_record fun {field s} h {dropped} _ => ?_
  iterate 4 refine Json.bind_withDefault_withoutFields h fun h => ?_
  cases h
  rfl

/-- Settings go by the names of their two parts, and either may be left out. -/
theorem Settings.readsByName :
    Json.ReadsByName (fun members => decode (.object members))
      (fun _ => ["key_bindings", "engine"]) [] without := by
  refine Json.ReadsByName.of_record fun {field s} h {dropped} _ => ?_
  iterate 2 refine Json.bind_withDefault_withoutFields h fun h => ?_
  cases h
  rfl

/-- **Members go by their names.** Blocks, instructions, sprites, programs and settings, with the
stage's size, the key bindings and the playback settings that are parts of them, are decoded from
objects by the names that are known to what they are decoded to. Any order will do, members of other
names change nothing even if they are repeated, leaving out members that are not required changes
their own fields alone, to absent or to the default, and a known name given twice leaves no value.
What a block or an instruction knows next to its id and its tag depends on the tag. -/
theorem members_read_by_name :
    Json.ReadsByName (fun members => Block.decode (.object members)) Block.memberNames
      ["id", "type"] Block.without ∧
    Json.ReadsByName (fun members => Instruction.decode (.object members)) Instruction.memberNames
      ["type"] Instruction.without ∧
    Json.ReadsByName (fun members => Sprite.decode (.object members))
      (fun _ => ["id", "name", "x", "y", "animations"]) ["id", "name", "x", "y"] Sprite.without ∧
    Json.ReadsByName (fun members => StageSize.decode (.object members))
      (fun _ => ["width", "height"]) ["width", "height"] (fun _ s => s) ∧
    Json.ReadsByName (fun members => Program.decode (.object members))
      (fun _ => ["stage", "sprites"]) ["sprites"] Program.without ∧
    Json.ReadsByName (fun members => KeyBindings.decode (.object members))
      (fun _ => KeyBindings.fieldNames) [] KeyBindings.without ∧
    Json.ReadsByName (fun members => PlaybackSettings.decode (.object members))
      (fun _ => PlaybackSettings.fieldNames) [] PlaybackSettings.without ∧
    Json.ReadsByName (fun members => Settings.decode (.object members))
      (fun _ => ["key_bindings", "engine"]) [] Settings.without :=
  ⟨Block.readsByName, Instruction.readsByName false, Sprite.readsByName, StageSize.readsByName,
    Program.readsByName, KeyBindings.readsByName, PlaybackSettings.readsByName,
    Settings.readsByName⟩

/-- A block that says something: its members in the reverse order after members that only another
instruction knows, without its message, and with its message twice. -/
theorem members_read_by_name_say :
    let members : List (String × Json) :=
      [("id", .int 7), ("type", .text "say"), ("message", .text "Hi")]
    let others : List (String × Json) := [("steps", .int 3), ("steps", .null)]
    let block : Block := ⟨⟨7⟩, .bubble .say (some "Hi") none⟩
    Block.decode (.object members) = some block ∧
    Block.decode (.object (members ++ others).reverse) = some block ∧
    Block.decode (.object (Json.leaveOut ["message"] members)) =
      some ⟨⟨7⟩, .bubble .say none none⟩ ∧
    Block.decode (.object (members ++ [("message", .null)])) = none := by
  intro members others block
  have hblock : Block.decode (.object members) = some block := by rfl
  have h := members_read_by_name.1
  have hothers : ∀ m ∈ others, m.1 ∉ block.memberNames ∧ m.2.isReadable = true := by
    show ∀ m ∈ [("steps", Json.int 3), ("steps", Json.null)],
      m.1 ∉ block.memberNames ∧ m.2.isReadable = true
    simp only [List.forall_mem_cons]
    exact ⟨⟨by decide, rfl⟩, ⟨by decide, rfl⟩, by simp⟩
  exact ⟨hblock, h.of_perm hblock hothers (List.reverse_perm _),
    h.of_leaveOut hblock (by decide),
    h.of_twice hblock (List.Perm.refl _) (show "message" ∈ block.memberNames by decide)
      (by decide)⟩

end SpriteStage
