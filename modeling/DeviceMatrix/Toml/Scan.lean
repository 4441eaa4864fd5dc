import DeviceMatrix.Text.Decimal

/-! The small parts of TOML text: blanks, comments, keys and texts. Each reader takes a text
and gives what it read and the rest, or nothing if the text is not as it must be. -/
namespace DeviceMatrix.Toml.Scan

abbrev Reader (α : Type) := List Char → Option (α × List Char)

def isBlank (c : Char) : Bool := c == ' ' || c == '\t'

def skipBlanks (s : List Char) : List Char := s.dropWhile isBlank

/-- Characters that may stand in a comment or a text: no controls but the tab. -/
def isPlain (c : Char) : Bool := c == '\t' || (' ' ≤ c && c != '\x7f')

def newLine? : List Char → Option (List Char)
  | '\n' :: rest => some rest
  | '\r' :: '\n' :: rest => some rest
  | _ => none

def skipComment : List Char → List Char
  | '#' :: rest => rest.dropWhile isPlain
  | s => s

def endLine? (s : List Char) : Option (List Char) :=
  match skipComment (skipBlanks s) with
  | [] => some []
  | rest => newLine? rest

/-- Blanks, comments and line ends, as they may stand between the items of an array. -/
def skipSpace : Nat → List Char → Option (List Char)
  | 0, _ => none
  | fuel + 1, s =>
    match skipBlanks s with
    | '#' :: rest => do
      let rest ← newLine? (rest.dropWhile isPlain)
      skipSpace fuel rest
    | rest => match newLine? rest with
      | some rest => skipSpace fuel rest
      | none => some rest

def hexValue? (c : Char) : Option Nat :=
  if c.isDigit then some (c.toNat - 48)
  else if 'a' ≤ c ∧ c ≤ 'f' then some (c.toNat - 87)
  else if 'A' ≤ c ∧ c ≤ 'F' then some (c.toNat - 55)
  else none

def namedCharacter (count : Nat) : Reader Char := fun s => do
  let digits ← (s.take count).mapM hexValue?
  let point := digits.foldl (· * 16 + ·) 0
  if digits.length = count ∧ point.isValidChar then
    some (Char.ofNat point, s.drop count)
  else none

def escape : Reader Char
  | 'b' :: rest => some ('\x08', rest)
  | 't' :: rest => some ('\t', rest)
  | 'n' :: rest => some ('\n', rest)
  | 'f' :: rest => some ('\x0c', rest)
  | 'r' :: rest => some ('\r', rest)
  | '"' :: rest => some ('"', rest)
  | '\\' :: rest => some ('\\', rest)
  | 'u' :: rest => namedCharacter 4 rest
  | 'U' :: rest => namedCharacter 8 rest
  | _ => none

def precede (c : Char) (rest : Option (List Char × List Char)) : Option (List Char × List Char) :=
  rest.map fun (content, left) => (c :: content, left)

/-- A text in double quotes on one line, after the first quote. -/
def basic : Nat → Reader (List Char)
  | 0, _ => none
  | _, [] => none
  | fuel + 1, c :: rest =>
    if c = '"' then some ([], rest)
    else if c = '\\' then do
      let (meant, rest) ← escape rest
      precede meant (basic fuel rest)
    else if isPlain c then precede c (basic fuel rest)
    else none

def literal : Reader (List Char)
  | [] => none
  | c :: rest =>
    if c = '\x27' then some ([], rest)
    else if isPlain c then precede c (literal rest)
    else none

/-- Three quotes or more end a text of several lines; up to two of them belong to it. -/
def closing? (quote : Char) (s : List Char) : Option (List Char × List Char) :=
  let count := min (s.takeWhile (· = quote)).length 5
  if 3 ≤ count then some (List.replicate (count - 3) quote, s.drop count) else none

def continued : Nat → List Char → List Char
  | 0, s => s
  | fuel + 1, s =>
    let rest := skipBlanks s
    match newLine? rest with
    | some rest => continued fuel rest
    | none => rest

def basicLines : Nat → Reader (List Char)
  | 0, _ => none
  | fuel + 1, s =>
    match closing? '"' s with
    | some result => some result
    | none => match newLine? s with
      | some rest => precede '\n' (basicLines fuel rest)
      | none => match s with
        | [] => none
        | '\\' :: rest =>
          match newLine? (skipBlanks rest) with
          | some rest => basicLines fuel (continued rest.length rest)
          | none => do
            let (meant, rest) ← escape rest
            precede meant (basicLines fuel rest)
        | c :: rest => if isPlain c then precede c (basicLines fuel rest) else none

def literalLines : Nat → Reader (List Char)
  | 0, _ => none
  | fuel + 1, s =>
    match closing? '\x27' s with
    | some result => some result
    | none => match newLine? s with
      | some rest => precede '\n' (literalLines fuel rest)
      | none => match s with
        | [] => none
        | c :: rest => if isPlain c then precede c (literalLines fuel rest) else none

/-- A line end right behind three quotes does not count. -/
def afterOpening (s : List Char) : List Char := (newLine? s).getD s

def text : Reader (List Char)
  | '"' :: '"' :: '"' :: rest => basicLines (rest.length + 1) (afterOpening rest)
  | '\x27' :: '\x27' :: '\x27' :: rest => literalLines (rest.length + 1) (afterOpening rest)
  | '"' :: rest => basic (rest.length + 1) rest
  | '\x27' :: rest => literal rest
  | _ => none

def isBare (c : Char) : Bool := c.isAlphanum || c == '_' || c == '-'

def part : Reader String
  | '"' :: rest => (basic (rest.length + 1) rest).map fun (name, rest) => (String.ofList name, rest)
  | '\x27' :: rest => (literal rest).map fun (name, rest) => (String.ofList name, rest)
  | s =>
    let name := s.takeWhile isBare
    if name.isEmpty then none else some (String.ofList name, s.dropWhile isBare)

def parts : Nat → Reader (List String)
  | 0, _ => none
  | fuel + 1, s => do
    let (name, rest) ← part (skipBlanks s)
    match skipBlanks rest with
    | '.' :: rest => do
      let (names, rest) ← parts fuel rest
      return (name :: names, rest)
    | rest => return ([name], rest)

def depthLimit : Nat := 80

/-- A key as the tables it goes through and its last part. -/
def key : Reader (List String × String) := fun s => do
  let (names, rest) ← parts (s.length + 1) s
  let last ← names.getLast?
  if names.length < depthLimit then some ((names.dropLast, last), rest) else none

end DeviceMatrix.Toml.Scan
