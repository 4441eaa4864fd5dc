import DeviceMatrix.Shell.Bytes

/-! Patterns over texts: a star for any text, a question mark for any character, and lists of
characters between square brackets. A character that is quoted stands for itself, and so does
one behind a backslash. -/
namespace DeviceMatrix.Shell

/-- Characters that a list between brackets names: a range or a class. -/
inductive Member where
  | range (low high : Char)
  | kind (name : String)
  deriving DecidableEq, Repr

inductive Wild where
  | exactly (c : Char)
  | one
  | any
  | among (negated : Bool) (members : List Member)
  deriving DecidableEq, Repr

/-- A character of a pattern, and whether it is quoted. -/
abbrev Marked := Char × Bool

namespace Member

def kinds : List String :=
  ["alnum", "cntrl", "lower", "space", "alpha", "digit", "print", "upper", "blank", "graph",
    "punct", "xdigit"]

def isShown (c : Char) : Bool := '!' ≤ c && c ≤ '~'

def isOfKind (name : String) (c : Char) : Bool :=
  match name with
  | "alnum" => c.isAlphanum
  | "cntrl" => c.toNat < 32 || c.toNat = 127
  | "lower" => c.isLower
  | "space" => isSpace c
  | "alpha" => c.isAlpha
  | "digit" => c.isDigit
  | "print" => c == ' ' || isShown c
  | "upper" => c.isUpper
  | "blank" => isBlank c
  | "graph" => isShown c
  | "punct" => isShown c && !c.isAlphanum
  | "xdigit" => c.isDigit || ('a' ≤ c && c ≤ 'f') || ('A' ≤ c && c ≤ 'F')
  | _ => false

def covers (c : Char) : Member → Bool
  | range low high => low ≤ c && c ≤ high
  | kind name => isOfKind name c

def kind? (s : List Marked) : Option (Member × List Marked) :=
  kinds.findSome? fun name =>
    let spelling := (":" ++ name ++ ":]").toList.map (·, false)
    if spelling.isPrefixOf s then some (.kind name, s.drop spelling.length) else none

def escaped (c : Char) (quoted : Bool) : List Marked → Char × List Marked
  | (d, mark) :: rest => if c = '\\' ∧ !quoted then (d, rest) else (c, (d, mark) :: rest)
  | [] => (c, [])

/-- The members of a list up to the bracket that closes it, which stands for itself where it is
the first. A list that is not closed has none. -/
def list? : (fuel : Nat) → (first : Bool) → List Marked → Option (List Member × List Marked)
  | 0, _, _ => none
  | _, _, [] => none
  | fuel + 1, first, (c, quoted) :: rest =>
    if c = ']' ∧ !quoted ∧ !first then some ([], rest)
    else
      let (plain, rest) := escaped c quoted rest
      match (if c = '[' ∧ !quoted then kind? rest else none) with
      | some (member, rest) => (list? fuel false rest).map fun (found, rest) =>
          (member :: found, rest)
      | none =>
        match rest with
        | ('-', false) :: (d, bound) :: rest =>
          if d = ']' ∧ !bound then
            (list? fuel false (('-', false) :: (d, bound) :: rest)).map fun (found, rest) =>
              (.range plain plain :: found, rest)
          else
            let (d, rest) := escaped d bound rest
            (list? fuel false rest).map fun (found, rest) => (.range plain d :: found, rest)
        | rest =>
          (list? fuel false rest).map fun (found, rest) => (.range plain plain :: found, rest)

end Member

namespace Wild

def list? (s : List Marked) : Option (Wild × List Marked) :=
  match s with
  | ('!', false) :: rest =>
    (Member.list? (rest.length + 1) true rest).map fun (found, rest) => (.among true found, rest)
  | rest =>
    (Member.list? (rest.length + 1) true rest).map fun (found, rest) => (.among false found, rest)

def ofMarked : Nat → List Marked → List Wild
  | 0, _ => []
  | _, [] => []
  | fuel + 1, (c, true) :: rest => .exactly c :: ofMarked fuel rest
  | fuel + 1, (c, false) :: rest =>
    if c = '*' then .any :: ofMarked fuel rest
    else if c = '?' then .one :: ofMarked fuel rest
    else if c = '\\' then
      match rest with
      | [] => [.exactly c]
      | (d, _) :: rest => .exactly d :: ofMarked fuel rest
    else if c = '[' then
      match list? rest with
      | some (list, rest) => list :: ofMarked fuel rest
      | none => .exactly c :: ofMarked fuel rest
    else .exactly c :: ofMarked fuel rest

def pattern (s : List Marked) : List Wild := ofMarked s.length s

def takes : Wild → Char → Bool
  | exactly c, d => c == d
  | one, _ => true
  | any, _ => true
  | among negated members, d => negated != members.any (Member.covers d)

/-- Which beginnings of a pattern take nothing, from the empty one on. -/
def start : (holds : Bool) → List Wild → List Bool
  | holds, [] => [holds]
  | holds, wild :: pattern => holds :: start (holds && wild = any) pattern

/-- Which beginnings take one more character than they did `before`; `holds` is said of the
beginning in front. -/
def next (c : Char) : (holds : Bool) → List Wild → (before : List Bool) → List Bool
  | holds, wild :: pattern, first :: second :: before =>
    let taken := if wild = any then second || holds else first && wild.takes c
    holds :: next c taken pattern (second :: before)
  | holds, _, _ => [holds]

def accepts (pattern : List Wild) (s : List Char) : Bool :=
  (s.foldl (fun before c => next c false pattern before) (start true pattern)).getLastD false

/-- The lengths of the beginnings of a text that a pattern accepts, the longest first. -/
def lengths (pattern : List Wild) (s : List Char) : List Nat :=
  let note (row : List Bool) (length : Nat) (found : List Nat) :=
    if row.getLastD false then length :: found else found
  let first := start true pattern
  (s.foldl (fun (row, length, found) c =>
    let row := next c false pattern row
    (row, length + 1, note row (length + 1) found)) (first, 0, note first 0 [])).2.2

def dropFront (longest : Bool) (pattern : List Wild) (s : List Char) : List Char :=
  let found := lengths pattern s
  match if longest then found.head? else found.getLast? with
  | some n => s.drop n
  | none => s

def dropBack (longest : Bool) (pattern : List Wild) (s : List Char) : List Char :=
  (dropFront longest pattern.reverse s.reverse).reverse

end Wild
end DeviceMatrix.Shell
