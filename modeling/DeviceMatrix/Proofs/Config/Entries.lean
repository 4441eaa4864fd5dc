import DeviceMatrix.Config.Decode
import DeviceMatrix.Proofs.Json.Returns
import DeviceMatrix.Proofs.Record.Lookup

/-! What a section makes of the entries of a table, whatever they are and in whatever order. Each
field looks at the entry that names it, and holds its content from there or from its default. -/
namespace DeviceMatrix.Config

open Record (Field Fields Problem Row Slots)
open Toml (Value)

/-- What a field holds by the entry that names it, given what its slot held before. -/
inductive Holds {α : Type} (field : Field Value α) (slot : Option α) : Option Value → α → Prop where
  | kept {content : α} : slot.or field.absent = some content → Holds field slot none content
  | given {value : Value} {content : α} : slot = none → field.read value = .ok content →
      Holds field slot (some value) content

/-- Every field of the row holds what the entries give it. -/
def RowHolds : {types : List Type} → Fields (Field Value) types → List (String × Value) →
    Slots types → Row types → Prop
  | _, .nil, _, _, _ => True
  | _, .cons field rest, entries, (slot, slots), (content, row) =>
    Holds field slot (entries.lookup field.key) content ∧ RowHolds rest entries slots row

variable {types : List Type} {fields : Fields (Field Value) types} {slots : Slots types}
  {row : Row types} {key : String} {value : Value} {entries : List (String × Value)}

theorem finish_eq_ok_iff : fields.finish slots = .ok row ↔ RowHolds fields [] slots row := by
  induction fields with
  | nil => exact ⟨fun _ => trivial, fun _ => rfl⟩
  | cons field rest ih =>
    obtain ⟨slot, slots⟩ := slots
    obtain ⟨content, row⟩ := row
    rw [Fields.finish, RowHolds, ← ih]
    constructor
    · intro done
      cases filled : slot.or field.absent with
      | none => simp [filled] at done
      | some held =>
        rw [filled] at done
        obtain ⟨row, others, same⟩ := map_ok done
        cases same
        exact ⟨.kept filled, others⟩
    · rintro ⟨first, others⟩
      cases first with
      | kept filled =>
        rw [filled]
        exact map_eq_ok_iff.mpr ⟨row, others, rfl⟩

theorem rowHolds_cons_of_unknown (unknown : key ∉ fields.keys) :
    RowHolds fields ((key, value) :: entries) slots row ↔ RowHolds fields entries slots row := by
  induction fields with
  | nil => rfl
  | cons field rest ih =>
    obtain ⟨other, unknown⟩ := not_or.1 (mt List.mem_cons.2 unknown)
    rw [RowHolds, RowHolds, ih unknown, List.lookup_cons, beq_eq_false_iff_ne.2 (Ne.symm other)]

/-- An entry goes to the field that it names, if nothing is there yet. Behind it no entry with its
key may follow. -/
theorem rowHolds_cons_of_place {filled : Slots types} (distinct : fields.keys.Nodup)
    (placed : fields.place key value slots = some (.ok filled))
    (holds : RowHolds fields entries filled row) :
    RowHolds fields ((key, value) :: entries) slots row := by
  induction fields with
  | nil => contradiction
  | cons field rest ih =>
    obtain ⟨slot, slots⟩ := slots
    obtain ⟨fresh, distinct⟩ := List.nodup_cons.1 distinct
    rw [Fields.place] at placed
    by_cases same : field.key = key
    · subst same
      rw [if_pos rfl] at placed
      cases slot with
      | some held => simp at placed
      | none =>
        obtain ⟨taken, read, rfl⟩ := map_ok (Option.some.inj placed)
        obtain ⟨first, others⟩ := holds
        refine ⟨?_, (rowHolds_cons_of_unknown fresh).2 others⟩
        rw [List.lookup_cons_self]
        cases later : entries.lookup field.key with
        | none =>
          rw [later] at first
          cases first with
          | kept held => exact .given rfl (read.trans (congrArg Except.ok (Option.some.inj held)))
        | some value =>
          rw [later] at first
          cases first with
          | given free => contradiction
    · rw [if_neg same] at placed
      obtain ⟨attempt, found, mapped⟩ := Option.map_eq_some_iff.1 placed
      obtain ⟨others, rfl, rfl⟩ := map_ok mapped
      obtain ⟨first, holds⟩ := holds
      refine ⟨?_, ih distinct found holds⟩
      rwa [List.lookup_cons, beq_eq_false_iff_ne.2 same]

theorem place_of_rowHolds (distinct : fields.keys.Nodup) (named : key ∈ fields.keys)
    (alone : entries.lookup key = none)
    (holds : RowHolds fields ((key, value) :: entries) slots row) :
    ∃ filled, fields.place key value slots = some (.ok filled) ∧
      RowHolds fields entries filled row := by
  induction fields with
  | nil => contradiction
  | cons field rest ih =>
    obtain ⟨slot, slots⟩ := slots
    obtain ⟨content, row⟩ := row
    obtain ⟨fresh, distinct⟩ := List.nodup_cons.1 distinct
    obtain ⟨first, others⟩ := holds
    rw [Fields.place]
    by_cases same : field.key = key
    · subst same
      rw [if_pos rfl]
      rw [List.lookup_cons_self] at first
      cases first with
      | given free read =>
        subst free
        have filled : (field.read value).map (fun content => (some content, slots)) =
            .ok (some content, slots) := map_eq_ok_iff.2 ⟨content, read, rfl⟩
        refine ⟨(some content, slots), congrArg some filled, ?_⟩
        exact ⟨alone ▸ .kept rfl, (rowHolds_cons_of_unknown fresh).1 others⟩
    · have named : key ∈ rest.keys := (List.mem_cons.1 named).resolve_left (Ne.symm same)
      obtain ⟨filled, placed, holds⟩ := ih distinct named others
      rw [if_neg same, placed]
      refine ⟨(slot, filled), rfl, ?_, holds⟩
      rwa [List.lookup_cons, beq_eq_false_iff_ne.2 same] at first

theorem rowHolds_of_fromEntries (distinct : fields.keys.Nodup)
    (done : fromEntries fields entries slots = .ok row) : RowHolds fields entries slots row := by
  induction entries generalizing slots with
  | nil => exact finish_eq_ok_iff.1 done
  | cons entry entries ih =>
    obtain ⟨key, value⟩ := entry
    rw [fromEntries] at done
    cases placed : fields.place key value slots with
    | none =>
      rw [placed] at done
      exact (rowHolds_cons_of_unknown (Fields.place_eq_none_iff.1 placed)).2 (ih done)
    | some attempt =>
      rw [placed] at done
      obtain ⟨filled, rfl, done⟩ := bind_ok done
      exact rowHolds_cons_of_place distinct placed (ih done)

/-- Entries whose keys are distinct are accepted as the row in which every field holds what its
entry gives it. -/
theorem fromEntries_eq_ok_iff (distinct : fields.keys.Nodup) (apart : (entries.map (·.1)).Nodup) :
    fromEntries fields entries slots = .ok row ↔ RowHolds fields entries slots row := by
  refine ⟨rowHolds_of_fromEntries distinct, fun holds => ?_⟩
  induction entries generalizing slots with
  | nil => exact finish_eq_ok_iff.2 holds
  | cons entry entries ih =>
    obtain ⟨key, value⟩ := entry
    obtain ⟨fresh, apart⟩ := List.nodup_cons.1 apart
    rw [fromEntries]
    by_cases named : key ∈ fields.keys
    · have alone : entries.lookup key = none := lookup_eq_none_iff_not_mem.2 fresh
      obtain ⟨filled, placed, holds⟩ := place_of_rowHolds distinct named alone holds
      rw [placed]
      exact ih apart holds
    · rw [Fields.place_eq_none_iff.2 named]
      exact ih apart ((rowHolds_cons_of_unknown named).1 holds)

end DeviceMatrix.Config
