import DeviceMatrix.Text.Blank
import Mathlib.Data.List.DropRight

/-! Text without the blanks around it. Trimming takes blanks only, and what it leaves neither begins
nor ends with one. -/
namespace DeviceMatrix.Text

def Blank (s : List Char) : Prop := ∀ c ∈ s, isBlank c

structure Bare (s : List Char) : Prop where
  first : ∀ c ∈ s.head?, ¬isBlank c
  last : ∀ c ∈ s.getLast?, ¬isBlank c

/-- The second text is the first one without the blanks around it. -/
def Trimmed (written text : List Char) : Prop :=
  Bare text ∧ ∃ front back, Blank front ∧ Blank back ∧ written = front ++ text ++ back

theorem trim_eq_rdropWhile (s : List Char) :
    trim s = (s.dropWhile isBlank).rdropWhile isBlank := rfl

theorem bare_trim (s : List Char) : Bare (trim s) := by
  rw [trim_eq_rdropWhile]
  constructor
  · intro c head
    have start : c ∈ (s.dropWhile isBlank).head? := by
      obtain ⟨back, whole⟩ := List.rdropWhile_prefix isBlank (s.dropWhile isBlank)
      rw [← whole, List.head?_append_of_ne_nil _ (List.ne_nil_of_mem (List.mem_of_mem_head? head))]
      exact head
    have stopped := List.head?_dropWhile_not isBlank s
    rw [Option.mem_def.1 start] at stopped
    simpa using stopped
  · intro c last
    obtain ⟨some, rfl⟩ := List.mem_getLast?_eq_getLast last
    exact List.rdropWhile_last_not isBlank _ some

theorem trimmed_trim (s : List Char) : Trimmed s (trim s) := by
  refine ⟨bare_trim s, s.takeWhile isBlank, (s.dropWhile isBlank).rtakeWhile isBlank,
    fun c front => List.mem_takeWhile_imp front, fun c back => List.mem_rtakeWhile_imp back, ?_⟩
  rw [trim_eq_rdropWhile, List.append_assoc, List.rdropWhile_append_rtakeWhile,
    List.takeWhile_append_dropWhile]

theorem dropWhile_isBlank_of_head? {s : List Char} (first : ∀ c ∈ s.head?, ¬isBlank c) :
    s.dropWhile isBlank = s := by
  cases s with
  | nil => rfl
  | cons c s => simpa using first c rfl

theorem Blank.reverse {s : List Char} (blank : Blank s) : Blank s.reverse :=
  fun c member => blank c (List.mem_reverse.1 member)

theorem Trimmed.trim_eq {written text : List Char} (trimmed : Trimmed written text) :
    trim written = text := by
  obtain ⟨⟨first, last⟩, front, back, before, behind, rfl⟩ := trimmed
  rw [trim, List.append_assoc, List.dropWhile_append_of_pos before]
  cases text with
  | nil =>
    rw [List.nil_append, List.dropWhile_eq_nil_iff.2 behind]
    rfl
  | cons c text =>
    have start : (c :: text ++ back).dropWhile isBlank = c :: text ++ back :=
      dropWhile_isBlank_of_head? first
    rw [← List.head?_reverse] at last
    rw [start, List.reverse_append, List.dropWhile_append_of_pos behind.reverse,
      dropWhile_isBlank_of_head? last, List.reverse_reverse]

theorem trim_eq_iff {written text : List Char} : trim written = text ↔ Trimmed written text :=
  ⟨fun same => same ▸ trimmed_trim written, Trimmed.trim_eq⟩

theorem trimmed_nil_iff {written : List Char} : Trimmed written [] ↔ Blank written := by
  constructor
  · rintro ⟨-, front, back, before, behind, rfl⟩ c member
    rw [List.append_nil] at member
    exact (List.mem_append.1 member).elim (before c) (behind c)
  · intro blank
    exact ⟨⟨nofun, nofun⟩, written, [], blank, nofun, by simp⟩

end DeviceMatrix.Text
