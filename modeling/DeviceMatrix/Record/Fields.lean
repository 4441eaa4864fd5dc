import DeviceMatrix.Record.Problem

/-! Records read field by field. A record is described by its fields in declaration order;
it is filled from named entries, in any order and each name once, or from a list of values
in declaration order. -/
namespace DeviceMatrix.Record

/-- One field of a record that is read from values of type `V`. -/
structure Field (V α : Type) where
  key : String
  read : V → Except Problem α
  /-- The content when no entry names the field. -/
  absent : Option α
  /-- The content when a list of values ends before the field. -/
  beyond : Option α := absent

inductive Fields (F : Type → Type) : List Type → Type 1 where
  | nil : Fields F []
  | cons {α : Type} {types : List Type} (field : F α) (rest : Fields F types) :
    Fields F (α :: types)

@[reducible] def Row : List Type → Type
  | [] => Unit
  | α :: types => α × Row types

/-- What is known of a row so far. -/
@[reducible] def Slots : List Type → Type
  | [] => Unit
  | α :: types => Option α × Slots types

namespace Fields

def map {F G : Type → Type} (f : ∀ {α}, F α → G α) :
    {types : List Type} → Fields F types → Fields G types
  | _, nil => nil
  | _, cons field rest => cons (f field) (rest.map f)

def count {F : Type → Type} {types : List Type} (_ : Fields F types) : Nat := types.length

def vacant : (types : List Type) → Slots types
  | [] => ()
  | _ :: types => (none, vacant types)

variable {V : Type}

def keys : {types : List Type} → Fields (Field V) types → List String
  | _, nil => []
  | _, cons field rest => field.key :: rest.keys

/-- Gives the entry to the field it names. The answer is `none` if there is no such field;
a second entry for a field is refused before its value is looked at. -/
def place (key : String) (value : V) :
    {types : List Type} → Fields (Field V) types → Slots types →
      Option (Except Problem (Slots types))
  | _, nil, _ => none
  | _, cons field rest, (slot, slots) =>
    if field.key = key then
      some (if slot.isSome then .error (.mismatch (.duplicateField key))
        else (field.read value).map fun content => (some content, slots))
    else
      (place key value rest slots).map (·.map fun slots => (slot, slots))

theorem place_eq_none_iff {types : List Type} {fields : Fields (Field V) types} {key : String}
    {value : V} {slots : Slots types} :
    fields.place key value slots = none ↔ key ∉ fields.keys := by
  induction fields with
  | nil => exact ⟨fun _ => List.not_mem_nil, fun _ => rfl⟩
  | cons field rest ih =>
    obtain ⟨slot, slots⟩ := slots
    rw [place, keys, List.mem_cons, not_or]
    by_cases same : field.key = key
    · rw [if_pos same]
      simp [same]
    · rw [if_neg same, Option.map_eq_none_iff, ih]
      simp [Ne.symm same]

/-- Closes a record whose entries have all been seen. -/
def finish : {types : List Type} → Fields (Field V) types → Slots types → Except Problem (Row types)
  | _, nil, _ => .ok ()
  | _, cons field rest, (slot, slots) =>
    match slot.or field.absent with
    | none => .error (.mismatch (.missingField field.key))
    | some content => (finish rest slots).map fun row => (content, row)

def default? : {types : List Type} → Fields (Field V) types → Option (Row types)
  | _, nil => some ()
  | _, cons field rest => do
    let content ← field.beyond
    let row ← rest.default?
    return (content, row)

end Fields
end DeviceMatrix.Record
