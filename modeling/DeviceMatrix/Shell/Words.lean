/-! A command line split into words. Blanks, tabs and line feeds separate words; single quotes
keep everything, double quotes everything but a backslash before a dollar sign, a backtick, a
double quote, a backslash or a line feed; a number sign at the start of a word begins a
comment. Nothing is expanded. -/
namespace DeviceMatrix.Shell

inductive Splitting where
  | before (escaped : Bool)
  | comment
  | inside (escaped : Bool)
  | single
  | double (escaped : Bool)
  deriving DecidableEq, Repr

def isSeparator (c : Char) : Bool := c == ' ' || c == '\t' || c == '\n'

/-- Characters that a backslash between double quotes takes the meaning from. -/
def isActive (c : Char) : Bool := c == '$' || c == '\x60' || c == '"' || c == '\\'

/-- The words from a state on, the first of which starts with `word`. Quotes that are not
closed have no words. -/
def wordsFrom : Splitting → (word : List Char) → List Char → Option (List (List Char))
  | .before false, _, [] => some []
  | .comment, _, [] => some []
  | .before true, word, [] => some [word ++ ['\\']]
  | .inside false, word, [] => some [word]
  | .inside true, word, [] => some [word ++ ['\\']]
  | .single, _, [] => none
  | .double _, _, [] => none
  | .before false, word, c :: rest =>
    if c = '\x27' then wordsFrom .single word rest
    else if c = '"' then wordsFrom (.double false) word rest
    else if c = '\\' then wordsFrom (.before true) word rest
    else if isSeparator c then wordsFrom (.before false) word rest
    else if c = '#' then wordsFrom .comment word rest
    else wordsFrom (.inside false) (word ++ [c]) rest
  | .before true, word, c :: rest =>
    if c = '\n' then wordsFrom (.before false) word rest
    else wordsFrom (.inside false) (word ++ [c]) rest
  | .comment, word, c :: rest =>
    wordsFrom (if c = '\n' then .before false else .comment) word rest
  | .inside false, word, c :: rest =>
    if c = '\x27' then wordsFrom .single word rest
    else if c = '"' then wordsFrom (.double false) word rest
    else if c = '\\' then wordsFrom (.inside true) word rest
    else if isSeparator c then (wordsFrom (.before false) [] rest).map (word :: ·)
    else wordsFrom (.inside false) (word ++ [c]) rest
  | .inside true, word, c :: rest =>
    wordsFrom (.inside false) (if c = '\n' then word else word ++ [c]) rest
  | .single, word, c :: rest =>
    if c = '\x27' then wordsFrom (.inside false) word rest
    else wordsFrom .single (word ++ [c]) rest
  | .double false, word, c :: rest =>
    if c = '"' then wordsFrom (.inside false) word rest
    else if c = '\\' then wordsFrom (.double true) word rest
    else wordsFrom (.double false) (word ++ [c]) rest
  | .double true, word, c :: rest =>
    wordsFrom (.double false)
      (if c = '\n' then word else if isActive c then word ++ [c] else word ++ ['\\', c]) rest

theorem plain_of_isSeparator {c : Char} (separator : isSeparator c) :
    c ≠ '\x27' ∧ c ≠ '"' ∧ c ≠ '\\' := by
  refine ⟨?_, ?_, ?_⟩ <;> rintro rfl <;> exact absurd separator (by decide)

theorem wordsFrom_before_separator {c : Char} (separator : isSeparator c)
    (word rest : List Char) :
    wordsFrom (.before false) word (c :: rest) = wordsFrom (.before false) word rest := by
  simp [wordsFrom, plain_of_isSeparator separator, separator]

theorem wordsFrom_inside_separator {c : Char} (separator : isSeparator c)
    (word rest : List Char) :
    wordsFrom (.inside false) word (c :: rest) =
      (wordsFrom (.before false) [] rest).map (word :: ·) := by
  simp [wordsFrom, plain_of_isSeparator separator, separator]

def words? (command : String) : Option (List String) :=
  (wordsFrom (.before false) [] command.toList).map (·.map String.ofList)

end DeviceMatrix.Shell
