import DeviceMatrix.Proofs.Json.Meaning
import Mathlib.Data.List.Nodup

/-! Which objects a record is read from, and as what, for any record whose entries have distinct
keys. If each field reads what its entry means, the rest follows from the entries. -/
namespace DeviceMatrix.Json

open Record (Field Fields Row)

variable {R : Type}

/-- An array holds the values of the members in the order of the entries. In the place of a member
that is not there stands a value with the same content as none; it may be left out at the end. -/
def Arranges (members : List (String × Source)) : List (Entry R) → List Source → Prop
  | entries, [] => ∀ entry ∈ entries, valuesOf entry.key members = []
  | [], _ :: _ => False
  | entry :: entries, item :: items =>
    (valuesOf entry.key members = [item] ∨ valuesOf entry.key members = [] ∧
      ∃ content, entry.absent = some content ∧ entry.Means item content) ∧
    Arranges members entries items

/-- Two values are read as the same content, if one of them is read at all. -/
def Codec.Alike {α : Type} (codec : Codec α) (source other : Source) : Prop :=
  ∀ content, codec.read source = .ok content ↔ codec.read other = .ok content

def Shape.fields (shape : Shape R) : Fields (Field Source) shape.types :=
  shape.members.map (·.toField)

/-- The record is read by its entries: which objects it is read from, and what they mean. -/
structure Shape.ReadsObjects (shape : Shape R) (entries : List (Entry R)) : Prop where
  reads : shape.codec.Reads (IsRecord entries)
  takes : ∀ entry ∈ entries, entry.Takes
  /-- No known key may occur twice, the value of each must have a meaning for its entry, and no
  required key may be missing. -/
  accepted : ∀ members, AllWhole members →
    ((∃ record, shape.codec.read (objectOf members) = .ok record) ↔
      ∀ entry ∈ entries, (valuesOf entry.key members).length ≤ 1 ∧
        (∀ value ∈ valuesOf entry.key members, ∃ content, entry.Means value content) ∧
        (entry.presence = .required → valuesOf entry.key members ≠ []))
  decoded : ∀ members record, AllWhole members →
    (shape.codec.read (objectOf members) = .ok record ↔
      ∀ entry ∈ entries, entry.Holds (valuesOf entry.key members) record)
  /-- Only the members with known keys matter, and not their order. -/
  known : ∀ members others, AllWhole members → AllWhole others →
    (members.filter (·.1 ∈ keysOf entries)).Perm (others.filter (·.1 ∈ keysOf entries)) →
      shape.codec.Alike (objectOf members) (objectOf others)
  null : ∀ before after, ∀ entry ∈ entries, AllWhole (before ++ after) →
    entry.presence = .optional → entry.key ∉ (before ++ after).map (·.1) →
      shape.codec.Alike (objectOf (before ++ (entry.key, .null) :: after))
        (objectOf (before ++ after))
  positional : ∀ members items, AllWhole members → Arranges members entries items →
    shape.codec.Alike (objectOf members) (.array items none)

/-- Fields that read what the entries mean, each in its place. `view` shows what a record has in
these fields. -/
inductive Describes : {types : List Type} → (R → Row types) → Fields (Field Source) types →
    List (Entry R) → Prop where
  | nil {view : R → Row []} : Describes view .nil []
  | cons {α : Type} {types : List Type} {view : R → Row (α :: types)} {field : Field Source α}
      {rest : Fields (Field Source) types} {presence : Presence} {Means : Source → α → Prop}
      {entries : List (Entry R)}
      (reads : ∀ source content, field.read source = .ok content ↔ Means source content)
      (beyond : field.beyond = field.absent)
      (takes : Entry.Takes
        ⟨field.key, presence, Means, field.absent, fun record => (view record).1⟩)
      (others : Describes (fun record => (view record).2) rest entries) :
      Describes view (.cons field rest)
        (⟨field.key, presence, Means, field.absent, fun record => (view record).1⟩ :: entries)

/-! What the fields of a record read. -/

namespace Describes

variable {types : List Type} {view : R → Row types} {fields : Fields (Field Source) types}
  {entries : List (Entry R)} {members : List (String × Source)} {record : R}

theorem keys_eq (describes : Describes view fields entries) : fields.keys = keysOf entries := by
  induction describes with
  | nil => rfl
  | cons _ _ _ _ ih => rw [Fields.keys, ih]; rfl

theorem takes (describes : Describes view fields entries) : ∀ entry ∈ entries, entry.Takes := by
  induction describes with
  | nil => exact List.forall_mem_nil _
  | cons _ _ takes _ ih => exact List.forall_mem_cons.mpr ⟨takes, ih⟩

theorem means_unique (describes : Describes view fields entries) :
    ∀ entry ∈ entries, ∀ value content other,
      entry.Means value content → entry.Means value other → content = other := by
  induction describes with
  | nil => exact List.forall_mem_nil _
  | cons reads _ _ _ ih =>
    refine List.forall_mem_cons.mpr ⟨fun value content other first second => ?_, ih⟩
    have read := (reads value content).mpr first
    rw [(reads value other).mpr second] at read
    exact (Except.ok.inj read).symm

theorem rowGets_iff (describes : Describes view fields entries) :
    RowGets fields members (Fields.vacant types) (view record) ↔
      ∀ entry ∈ entries, entry.Holds (valuesOf entry.key members) record := by
  induction describes with
  | nil => exact ⟨fun _ => List.forall_mem_nil _, fun _ => trivial⟩
  | @cons α types view field rest presence Means entries reads _ _ _ ih =>
    rw [List.forall_mem_cons, ← ih]
    refine and_congr_left fun _ => ?_
    constructor
    · rintro (⟨unnamed, initial⟩ | ⟨single, -, read⟩)
      · exact .absent unnamed initial
      · exact .given single ((reads _ _).mp read)
    · rintro (⟨single, means⟩ | ⟨unnamed, initial⟩)
      · exact .given single rfl ((reads _ _).mpr means)
      · exact .kept unnamed initial

theorem exists_rowGets_iff (describes : Describes view fields entries) :
    (∃ row, RowGets fields members (Fields.vacant types) row) ↔
      ∀ entry ∈ entries, (valuesOf entry.key members).length ≤ 1 ∧
        (∀ value ∈ valuesOf entry.key members, ∃ content, entry.Means value content) ∧
        (entry.presence = .required → valuesOf entry.key members ≠ []) := by
  induction describes with
  | nil => exact ⟨fun _ => List.forall_mem_nil _, fun _ => ⟨(), trivial⟩⟩
  | @cons α types view field rest presence Means entries reads _ takes _ ih =>
    have required : field.absent = none ↔ presence = .required := by
      cases presence with
      | required => exact ⟨fun _ => rfl, fun _ => takes.1⟩
      | defaulted | optional =>
        refine ⟨fun none => ?_, nofun⟩
        have initial : field.absent.isSome := takes.1
        rw [none] at initial
        contradiction
    rw [List.forall_mem_cons, ← ih, ← required]
    simp only [← reads]
    rw [← exists_gets_iff]
    constructor
    · rintro ⟨⟨content, row⟩, gets, others⟩
      exact ⟨⟨content, gets⟩, row, others⟩
    · rintro ⟨⟨content, gets⟩, row, others⟩
      exact ⟨(content, row), gets, others⟩

theorem default?_eq_some_iff (describes : Describes view fields entries) :
    fields.default? = some (view record) ↔ InOrder entries [] record := by
  induction describes with
  | nil => exact ⟨fun _ => .nil, fun _ => rfl⟩
  | @cons α types view field rest presence Means entries _ beyond _ _ ih =>
    have absent : (Fields.cons field rest).default? = some (view record) ↔
        field.absent = some (view record).1 ∧ rest.default? = some (view record).2 := by
      rw [Fields.default?, beyond]
      obtain ⟨content, row⟩ := view record
      simp [Option.bind_eq_some_iff]
    rw [absent, ih]
    constructor
    · rintro ⟨initial, others⟩
      exact .absent initial others
    · intro order
      cases order with
      | absent initial others => exact ⟨initial, others⟩

theorem readItems_eq_ok_iff (describes : Describes view fields entries) {wanted : String}
    {taken : Nat} {stop : Option Fault} {items : List Source} :
    readItems wanted stop fields taken items = .ok (view record) ↔
      stop = none ∧ InOrder entries items record := by
  induction describes generalizing taken items with
  | nil =>
    cases items with
    | nil => exact closing_eq_ok_iff.trans (and_iff_left .nil).symm
    | cons item items => exact ⟨nofun, nofun⟩
  | @cons α types view field rest presence Means entries reads beyond takes describes ih =>
    cases items with
    | nil =>
      have all : Describes view (.cons field rest) _ := .cons reads beyond takes describes
      rw [← all.default?_eq_some_iff, readItems]
      cases stop with
      | some fault => exact ⟨nofun, nofun⟩
      | none =>
        cases (Fields.cons field rest).default? with
        | none => exact ⟨nofun, nofun⟩
        | some row =>
          show Except.ok row = _ ↔ _
          simp
    | cons item items =>
      rw [readItems]
      constructor
      · intro done
        obtain ⟨content, read, done⟩ := bind_ok done
        obtain ⟨row, others, done⟩ := bind_ok done
        have same : (content, row) = view record := Except.ok.inj done
        obtain rfl : content = (view record).1 := congrArg Prod.fst same
        obtain rfl : row = (view record).2 := congrArg Prod.snd same
        obtain ⟨whole, order⟩ := ih.mp others
        exact ⟨whole, .given ((reads _ _).mp read) order⟩
      · rintro ⟨whole, order⟩
        cases order with
        | given means order =>
          exact bind_eq_ok_iff.mpr ⟨_, (reads _ _).mpr means,
            bind_eq_ok_iff.mpr ⟨_, ih.mpr ⟨whole, order⟩, rfl⟩⟩

end Describes

/-! Objects and arrays. -/

section Objects

variable {entries : List (Entry R)} {members others : List (String × Source)}
  {items : List Source} {record : R}

theorem isRecord_objectOf_iff (whole : AllWhole members) :
    IsRecord entries (objectOf members) record ↔
      ∀ entry ∈ entries, entry.Holds (valuesOf entry.key members) record := by
  constructor
  · intro spelled
    generalize same : objectOf members = source at spelled
    cases spelled with
    | object _ holds =>
      cases keyed_injective (Source.object.inj same).1
      exact holds
    | array _ => contradiction
  · exact .object fun member listed _ => whole member listed

theorem isRecord_array_iff :
    IsRecord entries (.array items none) record ↔ InOrder entries items record := by
  constructor
  · intro spelled
    generalize same : Source.array items none = source at spelled
    cases spelled with
    | object _ _ => contradiction
    | array order =>
      cases same
      exact order
  · exact .array

theorem Entry.Holds.perm {entry : Entry R} {values others : List Source}
    (perm : values.Perm others) (holds : entry.Holds values record) :
    entry.Holds others record := by
  cases holds with
  | given single means =>
    subst single
    exact .given (List.perm_singleton.mp perm.symm) means
  | absent unnamed initial =>
    subst unnamed
    exact .absent perm.symm.eq_nil initial

theorem Entry.holds_single_iff {entry : Entry R} {value : Source} :
    entry.Holds [value] record ↔ entry.Means value (entry.content record) := by
  constructor
  · rintro (⟨single, means⟩ | ⟨unnamed, -⟩)
    · cases single
      exact means
    · contradiction
  · exact .given rfl

theorem Entry.holds_nil_iff {entry : Entry R} :
    entry.Holds [] record ↔ entry.absent = some (entry.content record) := by
  constructor
  · rintro (⟨single, -⟩ | ⟨-, initial⟩)
    · contradiction
    · exact initial
  · exact .absent rfl

theorem inOrder_iff_of_arranges (unique : ∀ entry ∈ entries, ∀ value content other,
      entry.Means value content → entry.Means value other → content = other)
    (arranged : Arranges members entries items) :
    InOrder entries items record ↔
      ∀ entry ∈ entries, entry.Holds (valuesOf entry.key members) record := by
  induction entries generalizing items with
  | nil =>
    cases items with
    | nil => exact ⟨fun _ => List.forall_mem_nil _, fun _ => .nil⟩
    | cons item items => exact arranged.elim
  | cons entry entries ih =>
    obtain ⟨single, unique⟩ := List.forall_mem_cons.mp unique
    rw [List.forall_mem_cons]
    cases items with
    | nil =>
      obtain ⟨unnamed, arranged⟩ := List.forall_mem_cons.mp arranged
      have rest : Arranges members entries [] := by cases entries <;> exact arranged
      rw [unnamed, Entry.holds_nil_iff, ← ih unique rest]
      constructor
      · rintro ⟨⟩
        exact ⟨‹_›, ‹_›⟩
      · rintro ⟨initial, order⟩
        exact .absent initial order
    | cons item items =>
      obtain ⟨first, arranged⟩ := arranged
      have same : entry.Means item (entry.content record) ↔
          entry.Holds (valuesOf entry.key members) record := by
        rcases first with value | ⟨unnamed, content, initial, means⟩
        · rw [value, Entry.holds_single_iff]
        · rw [unnamed, Entry.holds_nil_iff, initial, Option.some.injEq]
          exact ⟨single _ _ _ means, fun same => same ▸ means⟩
      rw [← same, ← ih unique arranged]
      constructor
      · rintro ⟨⟩
        exact ⟨‹_›, ‹_›⟩
      · rintro ⟨means, order⟩
        exact .given means order

end Objects

section Records

variable {shape : Shape R} {entries : List (Entry R)}

theorem Shape.map_make_eq_ok_iff {step : Except Record.Problem (Row shape.types)} {record : R} :
    step.map shape.make = .ok record ↔ step = .ok (shape.view record) := by
  rw [map_eq_ok_iff]
  constructor
  · rintro ⟨row, rfl, rfl⟩
    rw [shape.view_make]
  · rintro rfl
    exact ⟨_, rfl, shape.make_view record⟩

/-- A record is read as its fields are. -/
theorem Shape.reads_isRecord (describes : Describes shape.view shape.fields entries)
    (distinct : (keysOf entries).Nodup) : shape.codec.Reads (IsRecord entries) := by
  refine ⟨fun source record => ?_, nofun⟩
  cases source with
  | object found stop =>
    rw [← describes.keys_eq] at distinct
    refine shape.map_make_eq_ok_iff.trans ((readMembers_eq_ok_iff distinct).trans ?_)
    rw [describes.keys_eq]
    constructor
    · rintro ⟨rfl, members, rfl, whole, gets⟩
      exact .object whole (describes.rowGets_iff.mp gets)
    · intro spelled
      generalize same : Source.object found stop = source at spelled
      cases spelled with
      | object whole holds =>
        cases same
        exact ⟨rfl, _, rfl, whole, describes.rowGets_iff.mpr holds⟩
      | array _ => contradiction
  | array items stop =>
    refine shape.map_make_eq_ok_iff.trans (describes.readItems_eq_ok_iff.trans ?_)
    constructor
    · rintro ⟨rfl, order⟩
      exact .array order
    · intro spelled
      generalize same : Source.array items stop = source at spelled
      cases spelled with
      | object _ _ => contradiction
      | array order =>
        cases same
        exact ⟨rfl, order⟩
  | keyless standing => exact ⟨nofun, nofun⟩
  | _ => exact ⟨fun done => absurd done (refuse_ne_ok _ _ _), nofun⟩

theorem Shape.readsObjects (describes : Describes shape.view shape.fields entries)
    (distinct : (keysOf entries).Nodup) : shape.ReadsObjects entries := by
  have reads := shape.reads_isRecord describes distinct
  have decoded (members : List (String × Source)) (record : R) (whole : AllWhole members) :
      shape.codec.read (objectOf members) = .ok record ↔
        ∀ entry ∈ entries, entry.Holds (valuesOf entry.key members) record :=
    (reads.read_iff _ record).trans (isRecord_objectOf_iff whole)
  refine ⟨reads, describes.takes, ?accepted, decoded, ?known, ?null, ?positional⟩
  case accepted =>
    intro members whole
    rw [← describes.exists_rowGets_iff]
    constructor
    · rintro ⟨record, read⟩
      exact ⟨_, describes.rowGets_iff.mpr ((decoded members record whole).mp read)⟩
    · rintro ⟨row, gets⟩
      rw [← shape.view_make row] at gets
      exact ⟨_, (decoded members _ whole).mpr (describes.rowGets_iff.mp gets)⟩
  case known =>
    intro members others whole whole' perm record
    rw [decoded members record whole, decoded others record whole']
    refine forall₂_congr fun entry listed => ?_
    have among : entry.key ∈ keysOf entries := List.mem_map_of_mem listed
    have values : (valuesOf entry.key members).Perm (valuesOf entry.key others) := by
      rw [← valuesOf_filter members among, ← valuesOf_filter others among]
      exact valuesOf_perm perm
    exact ⟨.perm values, .perm values.symm⟩
  case null =>
    intro before after entry listed whole optional unnamed record
    have whole' : AllWhole (before ++ (entry.key, .null) :: after) := by
      obtain ⟨front, back⟩ := List.forall_mem_append.mp whole
      exact List.forall_mem_append.mpr ⟨front, List.forall_mem_cons.mpr ⟨.null, back⟩⟩
    rw [decoded _ record whole', decoded _ record whole]
    refine forall₂_congr fun other listed' => ?_
    by_cases same : entry.key = other.key
    · obtain rfl : entry = other := List.inj_on_of_nodup_map distinct listed listed' same
      have nowhere := valuesOf_eq_nil unnamed
      obtain ⟨front, back⟩ := List.append_eq_nil_iff.mp (valuesOf_append ▸ nowhere)
      have takes := describes.takes entry listed
      rw [Entry.Takes, optional] at takes
      rw [nowhere, valuesOf_append, valuesOf_cons_self, front, back, List.nil_append,
        Entry.holds_single_iff, Entry.holds_nil_iff]
      exact takes.2 _
    · rw [valuesOf_append, valuesOf_append, valuesOf_cons_of_ne same]
  case positional =>
    intro members items whole arranged record
    rw [decoded members record whole, reads.read_iff, isRecord_array_iff]
    exact (inOrder_iff_of_arranges describes.means_unique arranged).symm

end Records

/-! Members. -/

namespace Describes

variable {α : Type} {types : List Type} {view : R → Row (α :: types)} {rest : Fields Member types}
  {entries : List (Entry R)} {key : String} {codec : Codec α} {Means : Source → α → Prop}

theorem required (reads : codec.Reads Means)
    (others : Describes (fun record => (view record).2) (rest.map (·.toField)) entries) :
    Describes view (.cons (Member.required key codec).toField (rest.map (·.toField)))
      (.required key Means (fun record => (view record).1) :: entries) := by
  refine .cons reads.read_iff rfl ?_ others
  exact ⟨rfl, reads.null⟩

theorem defaulted {initial : α} (reads : codec.Reads Means)
    (others : Describes (fun record => (view record).2) (rest.map (·.toField)) entries) :
    Describes view (.cons (Member.defaulted key codec initial).toField (rest.map (·.toField)))
      (.defaulted key Means initial (fun record => (view record).1) :: entries) := by
  refine .cons reads.read_iff rfl ?_ others
  exact ⟨rfl, reads.null⟩

theorem optional {view : R → Row (Option α :: types)} (reads : codec.Reads Means)
    (others : Describes (fun record => (view record).2) (rest.map (·.toField)) entries) :
    Describes view (.cons (Member.optional key codec).toField (rest.map (·.toField)))
      (.optional key Means (fun record => (view record).1) :: entries) := by
  have null (content : Option α) : OrNull Means .null content ↔ some none = some content := by
    constructor
    · rintro (_ | ⟨means⟩)
      · rfl
      · exact absurd means (reads.null _)
    · rintro ⟨⟩
      exact .null
  refine .cons (fun source content => ?_) rfl ?_ others
  · by_cases absent : source = .null
    · subst absent
      exact Iff.trans (by simp [Member.optional]) (null content).symm
    · have read : (Member.optional key codec).read source = (codec.read source).map some := by
        dsimp only [Member.optional]
        split
        · contradiction
        · rfl
      rw [read, map_eq_ok_iff]
      constructor
      · rintro ⟨content, read, rfl⟩
        exact .some ((reads.read_iff _ _).mp read)
      · rintro (_ | ⟨means⟩)
        · contradiction
        · exact ⟨_, (reads.read_iff _ _).mpr means, rfl⟩
  · exact ⟨rfl, null⟩

end Describes

end DeviceMatrix.Json
