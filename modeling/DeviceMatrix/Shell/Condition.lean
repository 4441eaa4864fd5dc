import DeviceMatrix.Host.Disk
import DeviceMatrix.Shell.Integer

/-! The conditions of `test`: facts about texts, numbers and files, negated with `!`, joined with
`-a` and `-o`, and put in brackets. A word is an operator only where its neighbours let it. -/
namespace DeviceMatrix.Shell.Condition

inductive Kind where
  | unary
  | binary
  | negation
  | both
  | either
  | opening
  | closing
  deriving DecidableEq, Repr

def kind? (word : String) : Option Kind :=
  if ["-r", "-w", "-x", "-e", "-f", "-d", "-c", "-b", "-p", "-u", "-g", "-k", "-s", "-t", "-z",
      "-n", "-h", "-L", "-G", "-O", "-S"].contains word then some .unary
  else if ["=", "!=", "<", ">", "-eq", "-ne", "-ge", "-gt", "-le", "-lt", "-nt", "-ot",
      "-ef"].contains word then some .binary
  else match word with
    | "!" => some .negation
    | "-a" => some .both
    | "-o" => some .either
    | "(" => some .opening
    | ")" => some .closing
    | _ => none

inductive Lexeme where
  | ending
  | operand
  | operator (kind : Kind) (word : String)
  deriving DecidableEq, Repr

def isBinary (word : List Char) : Bool := kind? (String.ofList word) = some .binary

/-- Whether an operator for one word is none because of the words behind it. -/
def isOperand : List (List Char) → Bool
  | [] => true
  | [_] => false
  | word :: _ => isBinary word

def lexeme : List (List Char) → Lexeme
  | [] => .ending
  | word :: rest =>
    let word := String.ofList word
    match kind? word with
    | some .unary => if isOperand rest then .operand else .operator .unary word
    | some .opening => if rest.isEmpty then .operand else .operator .opening word
    | some kind => .operator kind word
    | none => .operand

abbrev Finder := List Char → Option (Host.Location × Host.Node)

/-- The words from the one that is looked at on; errors are texts. -/
abbrev Reader := StateT (List (List Char)) (Except (List Char))

def fail {α : Type} (word : List Char) (text : String) : Reader α :=
  throw (if word.isEmpty then text.toList else word ++ ": ".toList ++ text.toList)

def number (word : List Char) : Reader Int :=
  match Integer.whole? word with
  | some n => return n
  | none => throw ("Illegal number: ".toList ++ word)

def advance : Reader Unit := modify List.tail

def current : Reader (List Char) := return (← get).headD []

def unary (finder : Finder) (operator : String) (word : List Char) : Reader Bool := do
  let node? : Option Host.Node := (finder word).map (·.2)
  match operator with
  | "-n" => return !word.isEmpty
  | "-z" => return word.isEmpty
  | "-t" => do
    let _ ← number word
    return false
  | "-e" | "-r" | "-w" | "-O" | "-G" => return node?.isSome
  | "-f" => return match node? with
    | some (.file _) | some (.program _) => true
    | _ => false
  | "-d" => return node? = some .directory
  | "-c" => return match node? with
    | some (.device _) => true
    | _ => false
  | "-s" => return match node? with
    | some (.file content) => !content.isEmpty
    | some .directory | some (.program _) => true
    | _ => false
  | "-x" => return match node? with
    | some .directory | some (.program _) => true
    | _ => false
  | _ => return false

def binary (finder : Finder) (operator : String) (left right : List Char) : Reader Bool := do
  let numbers (holds : Int → Int → Bool) : Reader Bool := do
    let left ← number left
    let right ← number right
    return holds left right
  match operator with
  | "=" => return left = right
  | "!=" => return left ≠ right
  | "<" => return left < right
  | ">" => return right < left
  | "-eq" => numbers fun a b => a = b
  | "-ne" => numbers fun a b => a ≠ b
  | "-lt" => numbers fun a b => a < b
  | "-le" => numbers fun a b => a ≤ b
  | "-gt" => numbers fun a b => a > b
  | "-ge" => numbers fun a b => a ≥ b
  | "-ef" => return match finder left, finder right with
    | some (here, _), some (there, _) => here = there
    | _, _ => false
  | _ => return false

mutual

/-- Conditions joined by `-o`. The first word is looked at as the lexeme. -/
def any (finder : Finder) : Nat → Lexeme → Reader Bool
  | 0, _ => return false
  | fuel + 1, first => do
    let holds ← all finder fuel first
    match lexeme (← get).tail with
    | .operator .either _ => do
      modify (List.drop 2)
      let others ← any finder fuel (lexeme (← get))
      return holds || others
    | _ => return holds

def all (finder : Finder) : Nat → Lexeme → Reader Bool
  | 0, _ => return false
  | fuel + 1, first => do
    let holds ← negated finder fuel first
    match lexeme (← get).tail with
    | .operator .both _ => do
      modify (List.drop 2)
      let others ← all finder fuel (lexeme (← get))
      return holds && others
    | _ => return holds

def negated (finder : Finder) : Nat → Lexeme → Reader Bool
  | 0, _ => return false
  | fuel + 1, first => do
    match first with
    | .operator .negation _ => do
      let next := lexeme (← get).tail
      if next ≠ .ending then advance
      return !(← negated finder fuel next)
    | first => primary finder fuel first

def primary (finder : Finder) : Nat → Lexeme → Reader Bool
  | 0, _ => return false
  | fuel + 1, first => do
    match first with
    | .ending => return false
    | .operator .opening _ => do
      advance
      match lexeme (← get) with
      | .operator .closing _ => return false
      | next => do
        let holds ← any finder fuel next
        advance
        match lexeme (← get) with
        | .operator .closing _ => return holds
        | _ => fail [] "closing paren expected"
    | .operator .unary operator => do
      advance
      if (← get).isEmpty then fail operator.toList "argument expected"
      unary finder operator (← current)
    | _ => do
      let left ← current
      match lexeme (← get).tail with
      | .operator .binary operator => do
        modify (List.drop 2)
        if (← get).isEmpty then fail operator.toList "argument expected"
        binary finder operator left (← current)
      | _ => return !left.isEmpty

end

def whole (finder : Finder) (first : Lexeme) (words : List (List Char)) :
    Except (List Char) Bool := do
  let (holds, rest) ← (any finder (8 * words.length + 8) first).run words
  match rest with
  | word :: _ :: _ => throw (word ++ ": unexpected operator".toList)
  | _ => return holds

/-- One or two words between brackets are a condition of their own, and so is what stands behind
a negation, as long as there are few words. A second negation of this kind means nothing. -/
def part (finder : Finder) : List (List Char) → Except (List Char) (Bool × Bool)
  | [] => .ok (true, false)
  | first :: rest =>
    let words := first :: rest
    let few := rest.length = 2 ∨ rest.length = 3
    if rest.length = 2 ∧ isBinary (rest.headD []) then
      (whole finder .operand words).map (false, ·)
    else if few ∧ first = ['('] ∧ rest.getLast? = some [')'] then
      let inner := rest.dropLast
      (whole finder (lexeme inner) inner).map (false, ·)
    else if few ∧ first = ['!'] then (part finder rest).map fun (_, holds) => (true, holds)
    else (whole finder (lexeme words) words).map (false, ·)

def holds (finder : Finder) (words : List (List Char)) : Except (List Char) Bool :=
  if words.isEmpty then .ok false
  else (part finder words).map fun (negated, holds) => negated != holds

end DeviceMatrix.Shell.Condition
