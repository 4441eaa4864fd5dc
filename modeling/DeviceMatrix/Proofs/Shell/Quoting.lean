import DeviceMatrix.Shell.Words

/-! Words between single quotes. A command line that spells its words so is split into these words
again, whatever characters they have. -/
namespace DeviceMatrix.Shell

/-- A character between single quotes. A quote ends them, is written behind a backslash and begins
them again. -/
def quotedChar (c : Char) : List Char :=
  if c = '\x27' then ['\x27', '\\', '\x27', '\x27'] else [c]

def quoted (word : String) : List Char :=
  '\x27' :: word.toList.flatMap quotedChar ++ ['\x27']

def joined (words : List String) : String :=
  String.ofList ([' '].intercalate (words.map quoted))

/-- A command line that spells its words between single quotes. There is at least one word, and
between two words there is at least one separator. -/
inductive Spells : List Char → List String → Prop where
  | last (word : String) : Spells (quoted word) [word]
  | more (word : String) {gap text : List Char} {words : List String} : gap ≠ [] →
      (∀ c ∈ gap, isSeparator c) → Spells text words →
      Spells (quoted word ++ gap ++ text) (word :: words)

theorem spells_joined {words : List String} (some : words ≠ []) :
    Spells (joined words).toList words := by
  rw [joined, String.toList_ofList]
  induction words with
  | nil => contradiction
  | cons word words ih =>
    cases words with
    | nil => simpa using Spells.last word
    | cons next words =>
      have blank : ∀ c ∈ [' '], isSeparator c := List.forall_mem_singleton.2 rfl
      have spelled := Spells.more word (List.cons_ne_nil ' ' []) blank (ih nofun)
      simpa [List.intercalate] using spelled

theorem wordsFrom_flatMap_quotedChar (text begun rest : List Char) :
    wordsFrom .single begun (text.flatMap quotedChar ++ '\x27' :: rest) =
      wordsFrom (.inside false) (begun ++ text) rest := by
  induction text generalizing begun with
  | nil => simp [wordsFrom]
  | cons c text ih =>
    by_cases quote : c = '\x27'
    · subst quote
      simp [quotedChar, wordsFrom, ih]
    · simp [quotedChar, quote, wordsFrom, ih]

theorem wordsFrom_quoted (word : String) (rest : List Char) :
    wordsFrom (.before false) [] (quoted word ++ rest) =
      wordsFrom (.inside false) word.toList rest := by
  have inner := wordsFrom_flatMap_quotedChar word.toList [] rest
  simpa [quoted, wordsFrom] using inner

theorem wordsFrom_gap {gap : List Char} (blank : ∀ c ∈ gap, isSeparator c)
    (word rest : List Char) :
    wordsFrom (.before false) word (gap ++ rest) = wordsFrom (.before false) word rest := by
  induction gap with
  | nil => rfl
  | cons c gap ih =>
    obtain ⟨separator, blank⟩ := List.forall_mem_cons.1 blank
    rw [List.cons_append, wordsFrom_before_separator separator, ih blank]

theorem Spells.wordsFrom {text : List Char} {words : List String} (spells : Spells text words) :
    wordsFrom (.before false) [] text = some (words.map (·.toList)) := by
  induction spells with
  | last word =>
    have last := wordsFrom_quoted word []
    rwa [List.append_nil] at last
  | @more word gap text words some blank _ ih =>
    obtain ⟨c, gap, rfl⟩ := List.exists_cons_of_ne_nil some
    obtain ⟨separator, blank⟩ := List.forall_mem_cons.1 blank
    rw [List.append_assoc, wordsFrom_quoted, List.cons_append,
      wordsFrom_inside_separator separator, wordsFrom_gap blank, ih]
    rfl

theorem Spells.words? {command : String} {words : List String}
    (spells : Spells command.toList words) : words? command = some words := by
  simp [Shell.words?, spells.wordsFrom, Function.comp_def]

end DeviceMatrix.Shell
