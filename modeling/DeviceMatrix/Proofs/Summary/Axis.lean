import DeviceMatrix.Summary.TestOutcome
import Mathlib.Data.Finmap

/-! The dimensions of a step as a map. The entries are put into it from first to last, so that of
several entries for one key the last counts. An axis value looks four keys up and nothing else, and
so the entries behind them are all that it can depend on. -/
namespace DeviceMatrix

/-- The keys that an axis value shows. -/
def axisKeys : List String := ["Model", "Version", "Locale", "Orientation"]

theorem Step.axisValue_congr {a b : Step}
    (same : ∀ key ∈ axisKeys, a.dimension? key = b.dimension? key) : a.axisValue = b.axisValue := by
  simp only [axisKeys, List.forall_mem_cons] at same
  obtain ⟨model, version, locale, orientation, -⟩ := same
  simp only [axisValue, model, version, locale, orientation]

namespace Dimension

/-! Looking up. -/

/-- The entry that counts for a key. -/
def last? (entries : List Dimension) (key : String) : Option Dimension :=
  entries.reverse.find? (·.key = key)

theorem key_of_last? {entries : List Dimension} {key : String} {entry : Dimension}
    (counts : last? entries key = some entry) : entry.key = key := by
  simpa using List.find?_some counts

theorem last?_append (entries others : List Dimension) (key : String) :
    last? (entries ++ others) key = (last? others key).or (last? entries key) := by
  rw [last?, List.reverse_append, List.find?_append]
  rfl

theorem last?_singleton (entry : Dimension) (key : String) :
    last? [entry] key = if entry.key = key then some entry else none := by
  by_cases same : entry.key = key <;> simp [last?, same]

theorem last?_cons (entry : Dimension) (rest : List Dimension) (key : String) :
    last? (entry :: rest) key =
      (last? rest key).or (if entry.key = key then some entry else none) := by
  rw [← last?_singleton, ← last?_append, List.singleton_append]

theorem last?_eq_none_iff {entries : List Dimension} {key : String} :
    last? entries key = none ↔ ∀ entry ∈ entries, entry.key ≠ key := by
  simp [last?]

theorem last?_eq_getLast? (entries : List Dimension) (key : String) :
    last? entries key = (entries.filter (·.key = key)).getLast? :=
  List.getLast?_filter.symm

/-! Inserting. -/

def insertInto (map : Finmap fun _ : String => String) (entry : Dimension) :
    Finmap fun _ : String => String :=
  map.insert entry.key entry.value

/-- The map that the entries make when they are inserted from first to last. -/
def toMap (entries : List Dimension) : Finmap fun _ : String => String :=
  entries.foldl insertInto ∅

/-- The search from the end follows the insertion from the front, one entry after the other. -/
theorem lookup_toMap (entries : List Dimension) (key : String) :
    (toMap entries).lookup key = (last? entries key).map (·.value) := by
  induction entries using List.reverseRecOn with
  | nil => rfl
  | append_singleton entries entry ih =>
    rw [toMap, List.foldl_concat, ← toMap, insertInto, last?_append, last?_singleton]
    by_cases same : entry.key = key
    · subst same
      simp [Finmap.lookup_insert]
    · rw [Finmap.lookup_insert_of_ne _ (Ne.symm same), ih]
      simp [same]

/-! Keeping what counts. -/

/-- Of each key of an axis value the last entry, and nothing else. -/
def kept : List Dimension → List Dimension
  | [] => []
  | entry :: rest =>
    if entry.key ∈ axisKeys ∧ ∀ later ∈ rest, later.key ≠ entry.key then entry :: kept rest
    else kept rest

theorem mem_kept_iff {entries : List Dimension} {entry : Dimension} :
    entry ∈ kept entries ↔ entry.key ∈ axisKeys ∧ last? entries entry.key = some entry := by
  induction entries with
  | nil => simp [kept, last?]
  | cons first rest ih =>
    rw [last?_cons]
    by_cases same : first.key = entry.key
    · rw [if_pos same]
      cases later : last? rest entry.key with
      | some counts =>
        have hidden : ¬∀ later ∈ rest, later.key ≠ first.key := by
          rw [same, ← last?_eq_none_iff, later]
          nofun
        rw [kept, if_neg fun visible => hidden visible.2, ih, later, Option.some_or]
      | none =>
        have alone : ∀ later ∈ rest, later.key ≠ first.key := by
          rwa [same, ← last?_eq_none_iff]
        have absent : entry ∉ kept rest := by
          rw [ih, later]
          nofun
        rw [Option.none_or, kept]
        by_cases shown : first.key ∈ axisKeys
        · rw [if_pos ⟨shown, alone⟩, List.mem_cons, or_iff_left absent, ← same]
          simp [shown, eq_comm]
        · rw [if_neg fun visible => shown visible.1, ← same]
          exact iff_of_false absent fun visible => shown visible.1
    · have other : entry ≠ first := fun equal => same (equal ▸ rfl)
      rw [if_neg same, Option.or_none, ← ih, kept]
      split
      · rw [List.mem_cons, or_iff_right other]
      · rfl

theorem nodup_kept (entries : List Dimension) : (kept entries).Nodup := by
  induction entries with
  | nil => exact List.nodup_nil
  | cons entry rest ih =>
    rw [kept]
    split
    next counts =>
      refine List.nodup_cons.mpr ⟨fun again => ?_, ih⟩
      have none : last? rest entry.key = none := last?_eq_none_iff.mpr counts.2
      rw [(mem_kept_iff.mp again).2] at none
      contradiction
    next => exact ih

theorem kept_perm_iff {entries others : List Dimension} :
    (kept entries).Perm (kept others) ↔
      ∀ key ∈ axisKeys, last? entries key = last? others key := by
  rw [List.perm_ext_iff_of_nodup (nodup_kept entries) (nodup_kept others)]
  constructor
  · intro same key shown
    ext entry
    constructor
    · intro counts
      obtain rfl := key_of_last? counts
      exact (mem_kept_iff.mp ((same entry).mp (mem_kept_iff.mpr ⟨shown, counts⟩))).2
    · intro counts
      obtain rfl := key_of_last? counts
      exact (mem_kept_iff.mp ((same entry).mpr (mem_kept_iff.mpr ⟨shown, counts⟩))).2
  · intro same entry
    rw [mem_kept_iff, mem_kept_iff, and_congr_right_iff]
    intro shown
    rw [same _ shown]

end Dimension

open Dimension (kept last? toMap)

/-- A dimension is what the map of all entries has under its key, so that an entry put behind the
others changes what its own key gives and no other. Steps have the same axis value if they agree in
the entries that are kept, whatever their order. Entries that no axis value shows, and those that a
later one for the same key hides, can be left out; and entries can be reordered as long as those of
one key stay in their order. -/
theorem dimensions_are_a_map (step other : Step) :
    (∀ key, step.dimension? key = (toMap step.dimensions).lookup key) ∧
    (∀ entry key, { step with dimensions := step.dimensions ++ [entry] }.dimension? key =
      if key = entry.key then some entry.value else step.dimension? key) ∧
    ((kept step.dimensions).Perm (kept other.dimensions) → step.axisValue = other.axisValue) ∧
    (∀ before entry after, (entry.key ∈ axisKeys → ∃ later ∈ after, later.key = entry.key) →
      (kept (before ++ entry :: after)).Perm (kept (before ++ after))) ∧
    (∀ entries others : List Dimension,
      (∀ key, entries.filter (·.key = key) = others.filter (·.key = key)) →
        (kept entries).Perm (kept others)) := by
  refine ⟨fun key => (Dimension.lookup_toMap _ key).symm, ?_, ?_, ?_, ?_⟩
  · intro entry key
    have search : ({ step with dimensions := step.dimensions ++ [entry] } : Step).dimension? key =
        (last? (step.dimensions ++ [entry]) key).map (·.value) := rfl
    rw [search, Dimension.last?_append, Dimension.last?_singleton]
    by_cases same : entry.key = key
    · simp [same]
    · rw [if_neg same, if_neg (Ne.symm same)]
      rfl
  · intro agree
    refine Step.axisValue_congr fun key shown => ?_
    exact congrArg (Option.map (·.value)) (Dimension.kept_perm_iff.mp agree key shown)
  · intro before entry after idle
    refine Dimension.kept_perm_iff.mpr fun key shown => ?_
    rw [Dimension.last?_append, Dimension.last?_append, Dimension.last?_cons]
    by_cases same : entry.key = key
    · subst same
      obtain ⟨later, behind, hides⟩ := idle shown
      have found : last? after entry.key ≠ none :=
        fun none => Dimension.last?_eq_none_iff.mp none later behind hides
      obtain ⟨counts, found⟩ := Option.ne_none_iff_exists'.mp found
      simp [found]
    · simp [same]
  · intro entries others aligned
    refine Dimension.kept_perm_iff.mpr fun key _ => ?_
    rw [Dimension.last?_eq_getLast?, Dimension.last?_eq_getLast?, aligned key]

/-- A step whose model was corrected later, with an entry that no axis value shows. -/
def correctedStep : Step where
  dimensions := [⟨"Locale", "en"⟩, ⟨"Model", "old"⟩, ⟨"Extra", "x"⟩, ⟨"Orientation", "landscape"⟩,
    ⟨"Model", "new"⟩]

def tidyStep : Step where
  dimensions := [⟨"Model", "new"⟩, ⟨"Orientation", "landscape"⟩, ⟨"Locale", "en"⟩]

theorem corrected_step_reads_like_tidy :
    (kept correctedStep.dimensions).Perm (kept tidyStep.dimensions) ∧
    correctedStep.axisValue = tidyStep.axisValue ∧
    tidyStep.axisValue = "new-?-en-landscape" := by
  have agree : (kept correctedStep.dimensions).Perm (kept tidyStep.dimensions) := by decide
  exact ⟨agree, (dimensions_are_a_map correctedStep tidyStep).2.2.1 agree, by decide +kernel⟩

end DeviceMatrix
