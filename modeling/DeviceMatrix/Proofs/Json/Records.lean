import DeviceMatrix.Proofs.Json.Returns

/-! Records read from their own writing. What comes back passes from the members to the record, as
long as no two of them share a key. -/
namespace DeviceMatrix.Json

open Record (Field Fields Row Slots)

/-- Each content of the row comes back as the one in its place. -/
def RowReturns : {types : List Type} → Fields Member types → Row types → Row types → Prop
  | _, .nil, _, _ => True
  | _, .cons member rest, (content, row), (result, results) =>
    member.Returns content result ∧ RowReturns rest row results

def RowSettled : {types : List Type} → Fields Member types → Prop
  | _, .nil => True
  | _, .cons member rest => member.Settled ∧ RowSettled rest

/-- What is filled in so far comes back from its own writing. -/
def SlotsSettled : {types : List Type} → Fields Member types → Slots types → Prop
  | _, .nil, _ => True
  | _, .cons member rest, (slot, slots) =>
    (∀ content, slot = some content → member.Returns content content) ∧ SlotsSettled rest slots

theorem RowReturns.nil : RowReturns .nil () () := trivial

theorem RowReturns.cons {α : Type} {types : List Type} {member : Member α}
    {rest : Fields Member types} {content result : α} {row results : Row types}
    (first : member.Returns content result) (others : RowReturns rest row results) :
    RowReturns (.cons member rest) (content, row) (result, results) := ⟨first, others⟩

theorem RowSettled.nil : RowSettled .nil := trivial

theorem RowSettled.cons {α : Type} {types : List Type} {member : Member α}
    {rest : Fields Member types} (first : member.Settled) (others : RowSettled rest) :
    RowSettled (.cons member rest) := ⟨first, others⟩

def memberKeys {types : List Type} (members : Fields Member types) : List String :=
  (members.map (·.toField)).keys

section Writing

variable {α : Type} {types : List Type}

theorem key_of_written {members : Fields Member types} {row : Row types} {entry : String × Value}
    (written : entry ∈ writeMembers members row) : entry.1 ∈ memberKeys members := by
  induction members with
  | nil => contradiction
  | cons member rest ih =>
    obtain ⟨content, row⟩ := row
    rcases List.mem_append.mp written with here | there
    · obtain ⟨value, -, rfl⟩ := Option.map_eq_some_iff.mp (Option.mem_toList.mp here)
      exact List.mem_cons_self
    · exact List.mem_cons_of_mem _ (ih there)

theorem readMembers_apart {field : Field Source α} {rest : Fields (Field Source) types}
    {stop : Option Fault} {entries : List (Key × Source)} {slot : Option α} {slots : Slots types}
    {content : α} {row : Row types} (apart : ∀ entry ∈ entries, entry.1 ≠ .named field.key)
    (filled : slot.or field.absent = some content)
    (others : readMembers rest stop entries slots = .ok row) :
    readMembers (.cons field rest) stop entries (slot, slots) = .ok (content, row) := by
  induction entries generalizing slots with
  | nil =>
    obtain ⟨_, closed, others⟩ := bind_ok others
    rw [readMembers, closed]
    show (Fields.cons field rest).finish (slot, slots) = _
    rw [Fields.finish, filled, others]
    rfl
  | cons entry entries ih =>
    obtain ⟨key, value⟩ := entry
    have later : ∀ entry ∈ entries, entry.1 ≠ .named field.key :=
      fun entry member => apart entry (List.mem_cons_of_mem _ member)
    cases key with
    | unreadable => contradiction
    | missing fault => contradiction
    | named key =>
      have other : field.key ≠ key := fun same => apart _ List.mem_cons_self (by rw [same])
      rw [readMembers] at others ⊢
      rw [Fields.place, if_neg other]
      cases place : rest.place key value slots with
      | none =>
        rw [place] at others
        cases skip : value.skip? with
        | none =>
          rw [skip] at others
          exact ih later others
        | some cause =>
          rw [skip] at others
          contradiction
      | some placed =>
        rw [place] at others
        obtain ⟨slots, placed, others⟩ := bind_ok others
        subst placed
        exact ih later others

theorem readMembers_writeMembers {members : Fields Member types} {row results : Row types}
    (distinct : (memberKeys members).Nodup) (returns : RowReturns members row results) :
    readMembers (members.map (·.toField)) none (Value.memberSources (writeMembers members row))
      (Fields.vacant types) = .ok results := by
  induction members with
  | nil => rfl
  | cons member rest ih =>
    obtain ⟨content, row⟩ := row
    obtain ⟨result, results⟩ := results
    obtain ⟨back, others⟩ := returns
    obtain ⟨fresh, distinct⟩ := List.nodup_cons.mp distinct
    have tail := ih distinct others
    have apart : ∀ entry ∈ Value.memberSources (writeMembers rest row),
        entry.1 ≠ .named member.key := by
      intro entry member same
      rw [Value.memberSources_eq] at member
      obtain ⟨⟨key, value⟩, written, rfl⟩ := List.mem_map.mp member
      cases same
      exact fresh (key_of_written written)
    -- What is written for the member fills its slot, or else the absent member does.
    cases written : member.write content with
    | none =>
      rw [Member.Returns, written] at back
      rw [writeMembers, written]
      exact readMembers_apart apart back tail
    | some value =>
      rw [Member.Returns, written] at back
      rw [writeMembers, written]
      show readMembers (.cons member.toField (rest.map (·.toField))) none
        ((.named member.key, value.source) :: Value.memberSources (writeMembers rest row))
        (none, Fields.vacant _) = _
      rw [readMembers, Fields.place, if_pos rfl]
      show ((member.read value.source).map _).bind _ = _
      rw [back]
      exact readMembers_apart apart rfl tail

end Writing

section Reading

variable {types : List Type}

theorem vacant_settled (members : Fields Member types) :
    SlotsSettled members (Fields.vacant types) := by
  induction members with
  | nil => trivial
  | cons member rest ih => exact ⟨fun _ => nofun, ih⟩

theorem place_settled {members : Fields Member types} (settled : RowSettled members)
    {key : String} {source : Source} {slots placed : Slots types}
    (held : SlotsSettled members slots)
    (read : (members.map (·.toField)).place key source slots = some (.ok placed)) :
    SlotsSettled members placed := by
  induction members with
  | nil => contradiction
  | cons member rest ih =>
    obtain ⟨slot, slots⟩ := slots
    obtain ⟨first, others⟩ := settled
    obtain ⟨here, there⟩ := held
    rw [Fields.map, Fields.place] at read
    split at read
    · have read := Option.some.inj read
      split at read
      · contradiction
      · obtain ⟨content, accepted, rfl⟩ := map_ok read
        exact ⟨fun _ same => Option.some.inj same ▸ first.read source content accepted, there⟩
    · obtain ⟨attempt, placed', same⟩ := Option.map_eq_some_iff.mp read
      obtain ⟨rest', rfl, rfl⟩ := map_ok same
      exact ⟨here, ih others there placed'⟩

theorem finish_settled {members : Fields Member types} (settled : RowSettled members)
    {slots : Slots types} {row : Row types} (held : SlotsSettled members slots)
    (read : (members.map (·.toField)).finish slots = .ok row) : RowReturns members row row := by
  induction members with
  | nil => trivial
  | cons member rest ih =>
    obtain ⟨slot, slots⟩ := slots
    obtain ⟨first, others⟩ := settled
    obtain ⟨here, there⟩ := held
    rw [Fields.map, Fields.finish] at read
    split at read
    · contradiction
    · next content filled =>
      obtain ⟨row, tail, rfl⟩ := map_ok read
      refine ⟨?_, ih others there tail⟩
      cases slot with
      | none => exact first.absent content filled
      | some held => exact here content filled

/-- However an object orders its members and whatever it holds besides them, the row that is read
from it comes back. -/
theorem readMembers_settled {members : Fields Member types} (settled : RowSettled members)
    {stop : Option Fault} {entries : List (Key × Source)} {slots : Slots types} {row : Row types}
    (held : SlotsSettled members slots)
    (read : readMembers (members.map (·.toField)) stop entries slots = .ok row) :
    RowReturns members row row := by
  induction entries generalizing slots with
  | nil =>
    obtain ⟨_, -, read⟩ := bind_ok read
    exact finish_settled settled held read
  | cons entry entries ih =>
    obtain ⟨key, value⟩ := entry
    cases key with
    | unreadable => contradiction
    | missing fault => contradiction
    | named key =>
      rw [readMembers] at read
      split at read
      · next attempt place =>
        obtain ⟨placed, rfl, read⟩ := bind_ok read
        exact ih (place_settled settled held place) read
      · split at read
        · contradiction
        · exact ih held read

theorem default_settled {members : Fields Member types} (settled : RowSettled members)
    {row : Row types} (beyond : (members.map (·.toField)).default? = some row) :
    RowReturns members row row := by
  induction members with
  | nil => trivial
  | cons member rest ih =>
    obtain ⟨first, others⟩ := settled
    obtain ⟨content, here, beyond⟩ := Option.bind_eq_some_iff.mp beyond
    obtain ⟨row, there, beyond⟩ := Option.bind_eq_some_iff.mp beyond
    cases beyond
    exact ⟨first.beyond content here, ih others there⟩

theorem readItems_settled {members : Fields Member types} (settled : RowSettled members)
    {wanted : String} {stop : Option Fault} {taken : Nat} {items : List Source} {row : Row types}
    (read : readItems wanted stop (members.map (·.toField)) taken items = .ok row) :
    RowReturns members row row := by
  induction members generalizing taken items with
  | nil => trivial
  | cons member rest ih =>
    cases items with
    | nil =>
      obtain ⟨_, -, read⟩ := bind_ok read
      split at read
      · next filled beyond =>
        cases read
        exact default_settled settled beyond
      · contradiction
    | cons item items =>
      obtain ⟨first, others⟩ := settled
      obtain ⟨content, here, read⟩ := bind_ok read
      obtain ⟨row, there, read⟩ := bind_ok read
      cases read
      exact ⟨first.read item content here, ih others there⟩

end Reading

namespace Shape

variable {R : Type} {shape : Shape R}

theorem codec_returns (distinct : (memberKeys shape.members).Nodup) {record result : R}
    (returns : RowReturns shape.members (shape.view record) (shape.view result)) :
    shape.codec.Returns record result := by
  have row := readMembers_writeMembers distinct returns
  show (readMembers _ none (Value.memberSources (writeMembers _ _)) _).map shape.make = _
  rw [row]
  exact congrArg Except.ok (shape.make_view result)

theorem codec_solid : shape.codec.Solid := fun _ => nofun

/-- A record that could be read, from an object or from an array, is read again from the object
that is written for it. -/
theorem codec_settled (distinct : (memberKeys shape.members).Nodup)
    (settled : RowSettled shape.members) : shape.codec.Settled := by
  have back {row : Row shape.types} (returns : RowReturns shape.members row row) :
      shape.codec.Returns (shape.make row) (shape.make row) := by
    apply codec_returns distinct
    rw [shape.view_make]
    exact returns
  intro source record read
  cases source with
  | object entries stop =>
    obtain ⟨row, accepted, rfl⟩ := map_ok read
    exact back (readMembers_settled settled (vacant_settled _) accepted)
  | array items stop =>
    obtain ⟨row, accepted, rfl⟩ := map_ok read
    exact back (readItems_settled settled accepted)
  | keyless => contradiction
  | _ => exact absurd read (refuse_ne_ok _ _ _)

end Shape

end DeviceMatrix.Json
