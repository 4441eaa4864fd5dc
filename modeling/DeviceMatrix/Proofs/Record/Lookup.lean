import Mathlib.Data.List.Nodup

/-! Entries looked up by their keys, where the first of a key counts. -/
namespace DeviceMatrix

variable {κ α : Type} [BEq κ] [LawfulBEq κ] {entries : List (κ × α)} {key other : κ} {content : α}

theorem lookup_filter_ne [DecidableEq κ] (apart : other ≠ key) :
    (entries.filter (·.1 ≠ key)).lookup other = entries.lookup other := by
  induction entries with
  | nil => rfl
  | cons entry entries ih =>
    obtain ⟨place, content⟩ := entry
    by_cases same : place = key
    · have differs : (other == place) = false := by simp [same, apart]
      rw [List.filter_cons_of_neg (by simpa using same), ih, List.lookup_cons, differs]
    · rw [List.filter_cons_of_pos (by simpa using same), List.lookup_cons, List.lookup_cons, ih]

theorem lookup_eq_none_iff_not_mem : entries.lookup key = none ↔ key ∉ entries.map (·.1) := by
  rw [List.lookup_eq_none_iff]
  constructor
  · intro apart member
    obtain ⟨entry, listed, rfl⟩ := List.mem_map.mp member
    simpa using apart entry listed
  · intro unnamed entry listed
    simpa using Ne.symm (ne_of_mem_of_not_mem (List.mem_map_of_mem listed) unnamed)

theorem mem_of_lookup (found : entries.lookup key = some content) : (key, content) ∈ entries := by
  obtain ⟨before, after, rfl, -⟩ := List.lookup_eq_some_iff.mp found
  exact List.mem_append_cons_self

end DeviceMatrix
