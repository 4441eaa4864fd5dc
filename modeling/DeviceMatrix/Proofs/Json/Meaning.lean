import DeviceMatrix.Proofs.Json.Objects

/-! What the trees of a text mean. A value means a text, a flag, a number or a list of such, and
null means that an optional content is missing. A record has entries: each lists the key of a
member, what the values under it mean, and what stands for it if it is not there. -/
namespace DeviceMatrix.Json

/-! Contents. -/

inductive IsText : Source → String → Prop where
  | text (content : String) : IsText (.text (some content)) content

inductive IsFlag : Source → Bool → Prop where
  | flag (value : Bool) : IsFlag (.flag value) value

inductive IsInt32 : Source → Int32 → Prop where
  | integer (value : Int32) : IsInt32 (.number (.integer value.toInt)) value

inductive IsList {α : Type} (Item : Source → α → Prop) : Source → List α → Prop where
  | array {items : List Source} {contents : List α} (each : List.Forall₂ Item items contents) :
      IsList Item (.array items none) contents

inductive OrNull {α : Type} (Content : Source → α → Prop) : Source → Option α → Prop where
  | null : OrNull Content .null none
  | some {value : Source} {content : α} (means : Content value content) :
      OrNull Content value (some content)

/-! Entries. -/

inductive Presence where
  /-- The member must be there, and may not be null. -/
  | required
  /-- Something stands for a member that is not there, but not for null. -/
  | defaulted
  /-- Null is as good as no member. -/
  | optional
  deriving DecidableEq, Repr

/-- What a record of type `R` has by one key. -/
structure Entry (R : Type) where
  key : String
  presence : Presence
  {Content : Type}
  Means : Source → Content → Prop
  absent : Option Content
  content : R → Content

namespace Entry

variable {R α : Type}

def required (key : String) (Means : Source → α → Prop) (content : R → α) : Entry R where
  key := key
  presence := .required
  Means := Means
  absent := none
  content := content

def defaulted (key : String) (Means : Source → α → Prop) (initial : α) (content : R → α) :
    Entry R where
  key := key
  presence := .defaulted
  Means := Means
  absent := some initial
  content := content

def optional (key : String) (Means : Source → α → Prop) (content : R → Option α) : Entry R where
  key := key
  presence := .optional
  Means := OrNull Means
  absent := some none
  content := content

/-- How an entry takes it if its member is not there, or is null. -/
def Takes (entry : Entry R) : Prop :=
  match entry.presence with
  | .required => entry.absent = none ∧ ∀ content, ¬entry.Means .null content
  | .defaulted => entry.absent.isSome ∧ ∀ content, ¬entry.Means .null content
  | .optional => entry.absent.isSome ∧
      ∀ content, entry.Means .null content ↔ entry.absent = some content

/-- The record has what the values under the key say. -/
inductive Holds (entry : Entry R) (values : List Source) (record : R) : Prop where
  | given {value : Source} (single : values = [value])
      (means : entry.Means value (entry.content record))
  | absent (unnamed : values = []) (initial : entry.absent = some (entry.content record))

end Entry

variable {R : Type}

def keysOf (entries : List (Entry R)) : List String := entries.map (·.key)

/-- The record has what the items say, in the order of the entries. Where the items end early, the
other entries are absent. -/
inductive InOrder : List (Entry R) → List Source → R → Prop where
  | nil {record : R} : InOrder [] [] record
  | given {entry : Entry R} {entries : List (Entry R)} {item : Source} {items : List Source}
      {record : R} (means : entry.Means item (entry.content record))
      (others : InOrder entries items record) : InOrder (entry :: entries) (item :: items) record
  | absent {entry : Entry R} {entries : List (Entry R)} {record : R}
      (initial : entry.absent = some (entry.content record))
      (others : InOrder entries [] record) : InOrder (entry :: entries) [] record

/-- The trees that spell a record with these entries: objects, in which the values of other keys
need only be complete, and arrays. -/
inductive IsRecord (entries : List (Entry R)) : Source → R → Prop where
  | object {members : List (String × Source)} {record : R}
      (others : ∀ member ∈ members, member.1 ∉ keysOf entries → member.2.Whole)
      (holds : ∀ entry ∈ entries, entry.Holds (valuesOf entry.key members) record) :
      IsRecord entries (objectOf members) record
  | array {items : List Source} {record : R} (holds : InOrder entries items record) :
      IsRecord entries (.array items none) record

/-! Codecs. -/

theorem closing_eq_ok_iff {stop : Option Fault} : closing stop = .ok () ↔ stop = none := by
  cases stop <;> simp [closing]

namespace Codec

variable {α : Type}

/-- The codec reads exactly what has a meaning, and as what it means. Null has none. -/
structure Reads (codec : Codec α) (Means : Source → α → Prop) : Prop where
  read_iff : ∀ source content, codec.read source = .ok content ↔ Means source content
  null : ∀ content, ¬Means .null content

variable {codec : Codec α} {Means : Source → α → Prop}

theorem text_reads : text.Reads IsText := by
  refine ⟨fun source content => ?_, nofun⟩
  constructor
  · intro read
    dsimp only [text] at read
    split at read
    · cases read
      exact .text _
    · exact absurd read (refuse_ne_ok _ _ _)
  · rintro ⟨⟩
    rfl

theorem flag_reads : flag.Reads IsFlag := by
  refine ⟨fun source content => ?_, nofun⟩
  constructor
  · intro read
    dsimp only [flag] at read
    split at read
    · cases read
      exact .flag _
    · exact absurd read (refuse_ne_ok _ _ _)
  · rintro ⟨⟩
    rfl

theorem int32_reads : int32.Reads IsInt32 := by
  refine ⟨fun source content => ?_, nofun⟩
  constructor
  · intro read
    dsimp only [int32] at read
    split at read
    · next value =>
      split at read
      · next fits =>
        cases read
        have exact : (Int32.ofInt value).toInt = value :=
          Int32.toInt_ofInt_of_le fits.1 (Int.lt_add_one_of_le fits.2)
        have means := IsInt32.integer (Int32.ofInt value)
        rwa [exact] at means
      · contradiction
    · exact absurd read (refuse_ne_ok _ _ _)
  · rintro ⟨⟩
    show (if _ then _ else _) = _
    rw [if_pos ⟨content.minValue_le_toInt, content.toInt_le⟩, Int32.ofInt_toInt]

theorem list_reads (reads : codec.Reads Means) : (list codec).Reads (IsList Means) := by
  have same : (fun source content => codec.read source = .ok content) = Means := by
    funext source content
    exact propext (reads.read_iff source content)
  refine ⟨fun source contents => ?_, nofun⟩
  constructor
  · intro read
    dsimp only [list] at read
    split at read
    · obtain ⟨_, each, read⟩ := bind_ok read
      obtain ⟨_, closed, done⟩ := bind_ok read
      cases done
      rw [mapM_eq_ok_iff, same] at each
      cases closing_eq_ok_iff.mp closed
      exact .array each
    · exact absurd read (refuse_ne_ok _ _ _)
  · rintro ⟨each⟩
    rw [← same] at each
    exact bind_eq_ok_iff.mpr ⟨contents, mapM_eq_ok_iff.mpr each, rfl⟩

end Codec

end DeviceMatrix.Json
