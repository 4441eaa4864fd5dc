import DeviceMatrix.Shell.Integer

/-! Integer expressions: numbers and variables, joined by the operators of arithmetic, of bits,
of comparison and of logic, which count what holds as one and what does not as zero. An
expression can give values to variables. -/
namespace DeviceMatrix.Shell.Arithmetic

inductive Lexeme where
  | number (value : Int)
  | name (name : String)
  | sign (text : String)
  | ending
  | unknown
  deriving DecidableEq, Repr

inductive Fault where
  | wording (text : String)
  | notNumber (text : List Char)
  /-- A quotient that is too great, which stops the process. -/
  | excessive
  deriving DecidableEq, Repr

/-- The operators between two expressions, which may stand in front of an equals sign to give a
variable a new value, with how tightly they bind. -/
def binary : List (String × Nat) :=
  [("*", 0), ("/", 0), ("%", 0), ("+", 1), ("-", 1), ("<<", 2), (">>", 2), ("<", 3), ("<=", 3),
    (">", 3), (">=", 3), ("==", 4), ("!=", 4), ("&", 5), ("^", 6), ("|", 7)]

def loosest : Nat := 8

def tightness? : Lexeme → Option (String × Nat)
  | .sign text => (binary.lookup text).map (text, ·)
  | _ => none

def assignment? : Lexeme → Option (Option String)
  | .sign "=" => some none
  | .sign text =>
    if ["*=", "/=", "%=", "+=", "-=", "<<=", ">>=", "&=", "^=", "|="].contains text then
      some (some (text.dropEnd 1).toString)
    else none
  | _ => none

def truth (holds : Bool) : Int := if holds then 1 else 0

def power (n : Nat) : Int := (1 <<< n : Nat)

def bitwise (f : Nat → Nat → Nat) (a b : Int) : Int :=
  Integer.wrap (f (Integer.unsigned a) (Integer.unsigned b))

/-- Divides by something, unless it is zero or the quotient is no value. -/
def divided (result : Int → Int → Int) (a b : Int) : Except Fault Int :=
  if b = 0 then .error (.wording "division by zero")
  else if a = Integer.least ∧ b = -1 then .error .excessive
  else .ok (result a b)

/-- A shift counts modulo the number of bits. -/
def apply (operator : String) (a b : Int) : Except Fault Int :=
  let places := Integer.unsigned b % 64
  match operator with
  | "*" => .ok (Integer.wrap (a * b))
  | "/" => divided Int.tdiv a b
  | "%" => divided Int.tmod a b
  | "+" => .ok (Integer.wrap (a + b))
  | "-" => .ok (Integer.wrap (a - b))
  | "<<" => .ok (Integer.wrap (a * power places))
  | ">>" => .ok (a.fdiv (power places))
  | "<" => .ok (truth (a < b))
  | "<=" => .ok (truth (a ≤ b))
  | ">" => .ok (truth (a > b))
  | ">=" => .ok (truth (a ≥ b))
  | "==" => .ok (truth (a = b))
  | "!=" => .ok (truth (a ≠ b))
  | "&" => .ok (bitwise Nat.land a b)
  | "^" => .ok (bitwise Nat.xor a b)
  | _ => .ok (bitwise Nat.lor a b)

/-- The signs, those that begin with others first. -/
def signs : List String :=
  ["<<=", ">>=", "<<", ">>", "<=", ">=", "==", "!=", "&&", "||", "*=", "/=", "%=", "+=", "-=",
    "&=", "^=", "|=", "<", ">", "=", "!", "&", "|", "*", "/", "%", "+", "-", "^", "~", "(", ")",
    "?", ":"]

def lexeme (s : List Char) : Lexeme × List Char :=
  match s.dropWhile isSpacing with
  | [] => (.ending, [])
  | c :: rest =>
    if c.isDigit then
      match Integer.parse? true (c :: rest) with
      | some found => (.number found.value, found.rest)
      | none => (.unknown, rest)
    else if isNameStart c then
      (.name (String.ofList (c :: rest.takeWhile isNameChar)), rest.dropWhile isNameChar)
    else
      match signs.find? fun sign => sign.toList.isPrefixOf (c :: rest) with
      | some sign => (.sign sign, (c :: rest).drop sign.length)
      | none => (.unknown, rest)

structure Progress where
  rest : List Char
  ahead : Lexeme := .ending
  assigned : List (String × Int) := []

abbrev Reader := StateT Progress (Except Fault)

def fail {α : Type} (text : String) : Reader α := throw (.wording text)

def take : Reader Lexeme := do
  let progress ← get
  let (lexeme, rest) := lexeme progress.rest
  set { progress with rest }
  return lexeme

def lookAt (ahead : Lexeme) : Reader Unit := modify ({ · with ahead })

/-- What the variables hold. One that is not set, or empty, counts as zero. -/
def valueOf (lookup : String → Option (List Char)) (name : String) : Reader Int := do
  match (← get).assigned.lookup name with
  | some value => return value
  | none =>
    let text := (lookup name).getD []
    match Integer.parse? true text with
    | some found =>
      if found.excessive || !(found.rest.dropWhile isSpace).isEmpty then throw (.notNumber text)
      else return found.value
    | none => if (text.dropWhile isSpace).isEmpty then return 0 else throw (.notNumber text)

mutual

/-- An expression that starts with a lexeme. Where it is `idle`, its value does not matter, and
nothing is stored. -/
def expression (lookup : String → Option (List Char)) : Nat → Lexeme → (idle : Bool) → Reader Int
  | 0, _, _ => fail "expecting primary"
  | fuel + 1, first, idle => do
    let second ← take
    match first, assignment? second with
    | .name name, some operator => do
      let value ← expression lookup fuel (← take) idle
      if idle then return value
      let value ← match operator with
        | none => pure value
        | some operator => do
          let before ← valueOf lookup name
          match apply operator before value with
          | .ok value => pure value
          | .error fault => throw fault
      modify fun progress => { progress with assigned := (name, value) :: progress.assigned }
      return value
    | _, _ => choice lookup fuel first second idle

def choice (lookup : String → Option (List Char)) : Nat → Lexeme → Lexeme → (idle : Bool) →
    Reader Int
  | 0, _, _, _ => fail "expecting primary"
  | fuel + 1, first, second, idle => do
    let condition ← either lookup fuel first second idle
    if (← get).ahead ≠ .sign "?" then return condition
    let met ← expression lookup fuel (← take) (idle || condition = 0)
    if (← get).ahead ≠ .sign ":" then fail "expecting ':'"
    let first ← take
    let second ← take
    let unmet ← choice lookup fuel first second (idle || condition ≠ 0)
    return if condition ≠ 0 then met else unmet

def either (lookup : String → Option (List Char)) : Nat → Lexeme → Lexeme → (idle : Bool) →
    Reader Int
  | 0, _, _, _ => fail "expecting primary"
  | fuel + 1, first, second, idle => do
    let left ← both lookup fuel first second idle
    if (← get).ahead ≠ .sign "||" then return left
    let first ← take
    let second ← take
    let right ← either lookup fuel first second (idle || left ≠ 0)
    return truth (left ≠ 0 || right ≠ 0)

def both (lookup : String → Option (List Char)) : Nat → Lexeme → Lexeme → (idle : Bool) →
    Reader Int
  | 0, _, _, _ => fail "expecting primary"
  | fuel + 1, first, second, idle => do
    let left ← operand lookup fuel first second idle
    let left ← joined lookup fuel left loosest idle
    if (← get).ahead ≠ .sign "&&" then return left
    let first ← take
    let second ← take
    let right ← both lookup fuel first second (idle || left = 0)
    return truth (left ≠ 0 && right ≠ 0)

/-- A value joined with those behind it by operators that bind tighter than `bound`. -/
def joined (lookup : String → Option (List Char)) : Nat → Int → (bound : Nat) → (idle : Bool) →
    Reader Int
  | 0, _, _, _ => fail "expecting primary"
  | fuel + 1, left, bound, idle => do
    match tightness? (← get).ahead with
    | none => return left
    | some (operator, level) =>
      if bound ≤ level then return left
      let first ← take
      let second ← take
      let right ← operand lookup fuel first second idle
      let right ← joined lookup fuel right level idle
      if idle then joined lookup fuel right bound idle
      else match apply operator left right with
        | .ok value => joined lookup fuel value bound idle
        | .error fault => throw fault

def operand (lookup : String → Option (List Char)) : Nat → Lexeme → Lexeme → (idle : Bool) →
    Reader Int
  | 0, _, _, _ => fail "expecting primary"
  | fuel + 1, first, second, idle => do
    match first with
    | .number value => do
      lookAt second
      return value
    | .name name => do
      lookAt second
      if idle then return 0 else valueOf lookup name
    | .sign "(" => do
      let value ← expression lookup fuel second idle
      if (← get).ahead ≠ .sign ")" then fail "expecting ')'"
      lookAt (← take)
      return value
    | .sign "+" => do operand lookup fuel second (← take) idle
    | .sign "-" => do return Integer.wrap (-(← operand lookup fuel second (← take) idle))
    | .sign "!" => do return truth ((← operand lookup fuel second (← take) idle) = 0)
    | .sign "~" => do return -(← operand lookup fuel second (← take) idle) - 1
    | _ => fail "expecting primary"

end

def evaluate (lookup : String → Option (List Char)) (s : List Char) :
    Except Fault (Int × List (String × Int)) :=
  let whole : Reader Int := do
    let value ← expression lookup (8 * s.length + 16) (← take) false
    if (← get).ahead ≠ .ending then fail "expecting EOF"
    return value
  (whole.run { rest := s }).map fun (value, progress) => (value, progress.assigned)

end DeviceMatrix.Shell.Arithmetic
