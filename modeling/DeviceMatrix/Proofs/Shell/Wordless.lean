import DeviceMatrix.Shell.Words

/-! Command lines without words. They are what separators, joined lines and comments can make up;
every other command line has a word, or quotes that are not closed. -/
namespace DeviceMatrix.Shell

def InLine (text : List Char) : Prop := ∀ c ∈ text, c ≠ '\n'

inductive Wordless : List Char → Prop where
  | nil : Wordless []
  | separator {c : Char} {rest : List Char} : isSeparator c → Wordless rest → Wordless (c :: rest)
  | joined {rest : List Char} : Wordless rest → Wordless ('\\' :: '\n' :: rest)
  | comment {text : List Char} : InLine text → Wordless ('#' :: text)
  | line {text rest : List Char} : InLine text → Wordless rest →
      Wordless ('#' :: (text ++ '\n' :: rest))

namespace Splitting

def HasWord : Splitting → Prop
  | before _ | comment => False
  | inside _ | single | double _ => True

end Splitting

theorem wordsFrom_ne_nil {state : Splitting} (begun : state.HasWord) (word text : List Char) :
    wordsFrom state word text ≠ some [] := by
  induction text generalizing state word with
  | nil =>
    cases state with
    | before | comment => contradiction
    | inside escaped => cases escaped <;> simp [wordsFrom]
    | single | double => simp [wordsFrom]
  | cons c rest ih =>
    have single := @ih .single trivial
    have inside (escaped : Bool) := @ih (.inside escaped) trivial
    have double (escaped : Bool) := @ih (.double escaped) trivial
    cases state with
    | before | comment => contradiction
    | inside escaped =>
      cases escaped with
      | false =>
        simp only [wordsFrom]
        split
        · exact single _
        split
        · exact double _ _
        split
        · exact inside _ _
        split
        · simp
        · exact inside _ _
      | true => exact inside _ _
    | single =>
      simp only [wordsFrom]
      split
      · exact inside _ _
      · exact single _
    | double escaped =>
      cases escaped with
      | false =>
        simp only [wordsFrom]
        split
        · exact inside _ _
        split <;> exact double _ _
      | true => exact double _ _

/-- What is left of a command line behind the sign that begins a comment. -/
inductive Commented : List Char → Prop where
  | last {text : List Char} : InLine text → Commented text
  | line {text rest : List Char} : InLine text → Wordless rest → Commented (text ++ '\n' :: rest)

theorem Commented.cons {c : Char} {rest : List Char} (other : c ≠ '\n') (tail : Commented rest) :
    Commented (c :: rest) := by
  cases tail with
  | last inLine => exact .last (List.forall_mem_cons.2 ⟨other, inLine⟩)
  | @line text _ inLine wordless =>
    exact @Commented.line (c :: text) _ (List.forall_mem_cons.2 ⟨other, inLine⟩) wordless

theorem Commented.wordless {rest : List Char} (tail : Commented rest) : Wordless ('#' :: rest) := by
  cases tail with
  | last inLine => exact .comment inLine
  | line inLine wordless => exact .line inLine wordless

/-- The three states before a word are followed together, for each can lead to the others. -/
theorem wordless_of_wordsFrom (text word : List Char) :
    (wordsFrom (.before false) word text = some [] → Wordless text) ∧
    (wordsFrom (.before true) word text = some [] → Wordless ('\\' :: text)) ∧
    (wordsFrom .comment word text = some [] → Commented text) := by
  induction text generalizing word with
  | nil => exact ⟨fun _ => .nil, by simp [wordsFrom], fun _ => .last nofun⟩
  | cons c rest ih =>
    obtain ⟨before, escaped, comment⟩ := ih word
    have begun (state : Splitting) (begun : state.HasWord) (word : List Char) :
        ¬wordsFrom state word rest = some [] := wordsFrom_ne_nil begun word rest
    refine ⟨?_, ?_, ?_⟩
    · intro none
      simp only [wordsFrom] at none
      split at none
      · exact absurd none (begun .single trivial _)
      split at none
      · exact absurd none (begun (.double false) trivial _)
      split at none
      · next backslash => exact backslash ▸ escaped none
      split at none
      · next separator => exact .separator separator (before none)
      split at none
      · next sign => exact sign ▸ (comment none).wordless
      · exact absurd none (begun (.inside false) trivial _)
    · intro none
      simp only [wordsFrom] at none
      split at none
      · next lineFeed => exact lineFeed ▸ .joined (before none)
      · exact absurd none (begun (.inside false) trivial _)
    · intro none
      simp only [wordsFrom] at none
      split at none
      · next lineFeed => exact lineFeed ▸ @Commented.line [] _ nofun (before none)
      · next other => exact (comment none).cons other

theorem wordsFrom_comment {text : List Char} (inLine : InLine text) (word : List Char) :
    wordsFrom .comment word text = some [] := by
  induction text with
  | nil => rfl
  | cons c rest ih =>
    obtain ⟨other, inLine⟩ := List.forall_mem_cons.1 inLine
    rw [wordsFrom, if_neg other]
    exact ih inLine

theorem wordsFrom_comment_append {text : List Char} (inLine : InLine text) (word rest : List Char) :
    wordsFrom .comment word (text ++ '\n' :: rest) = wordsFrom (.before false) word rest := by
  induction text with
  | nil => rfl
  | cons c text ih =>
    obtain ⟨other, inLine⟩ := List.forall_mem_cons.1 inLine
    rw [List.cons_append, wordsFrom, if_neg other]
    exact ih inLine

theorem Wordless.wordsFrom {text : List Char} (wordless : Wordless text) (word : List Char) :
    wordsFrom (.before false) word text = some [] := by
  induction wordless with
  | nil => rfl
  | separator separator _ ih => exact (wordsFrom_before_separator separator word _).trans ih
  | joined _ ih => exact ih
  | comment inLine => exact wordsFrom_comment inLine word
  | @line text rest inLine _ ih => exact (wordsFrom_comment_append inLine word rest).trans ih

theorem words?_eq_nil_iff {command : String} :
    words? command = some [] ↔ Wordless command.toList := by
  rw [words?, Option.map_eq_some_iff]
  constructor
  · rintro ⟨words, found, none⟩
    rw [List.map_eq_nil_iff.1 none] at found
    exact (wordless_of_wordsFrom _ _).1 found
  · intro wordless
    exact ⟨[], wordless.wordsFrom [], rfl⟩

end DeviceMatrix.Shell
