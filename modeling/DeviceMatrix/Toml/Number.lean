import DeviceMatrix.Toml.Scan
import DeviceMatrix.Toml.Value

/-! Numbers, dates and times in TOML. -/
namespace DeviceMatrix.Toml.Scan

/-- Digits that single underscores may stand between. -/
def digits (accepts : Char → Bool) : Nat → Reader (List Char)
  | 0, _ => none
  | _, [] => none
  | fuel + 1, c :: rest =>
    if accepts c then
      match rest with
      | '_' :: rest => precede c (digits accepts fuel rest)
      | d :: _ =>
        if accepts d then precede c (digits accepts fuel rest) else some ([c], rest)
      | [] => some ([c], [])
    else none

def isBinary (c : Char) : Bool := c == '0' || c == '1'
def isOctal (c : Char) : Bool := '0' ≤ c && c ≤ '7'

def based (base : Nat) (accepts : Char → Bool) : Reader Value := fun s => do
  let (found, rest) ← digits accepts (s.length + 1) s
  let value := found.foldl (fun n c => n * base + (hexValue? c).getD 0) 0
  if value ≤ Decimal.maxInteger then some (.integer value, rest) else none

def sign : List Char → Bool × List Char
  | '-' :: rest => (true, rest)
  | '+' :: rest => (false, rest)
  | s => (false, s)

def whole : Reader (List Char)
  | '0' :: rest => some (['0'], rest)
  | s => digits Char.isDigit (s.length + 1) s

def fraction? : Reader (Option (List Char))
  | '.' :: rest => (digits Char.isDigit (rest.length + 1) rest).map fun (found, rest) =>
    (some found, rest)
  | s => some (none, s)

def exponent? : Reader (Option (Bool × List Char))
  | c :: rest =>
    if c = 'e' ∨ c = 'E' then do
      let (negative, rest) := sign rest
      let (found, rest) ← digits Char.isDigit (rest.length + 1) rest
      return (some (negative, found), rest)
    else some (none, c :: rest)
  | [] => some (none, [])

def overflows (significand places : Nat) (negative : Bool) (power : Nat) : Bool :=
  if significand = 0 then false
  else
    let up := if negative then 0 else power
    let down := places + if negative then power else 0
    if up ≤ down then
      let down := down - up
      if (Decimal.digits significand).length ≤ down then false
      else significand ≥ Decimal.infinite * Nat.pow 10 down
    else if up - down > 400 then true
    else significand * Nat.pow 10 (up - down) ≥ Decimal.infinite

/-- A decimal number. Only numbers above zero are refused when they are too large. -/
def decimal : Reader Value := fun s => do
  let (negative, s) := sign s
  let (integral, s) ← whole s
  let (fraction, s) ← fraction? s
  let (exponent, s) ← exponent? s
  if fraction = none ∧ exponent = none then
    let magnitude := Decimal.value integral
    let bound := if negative then Decimal.maxInteger + 1 else Decimal.maxInteger
    if magnitude ≤ bound then
      some (.integer (if negative then -(magnitude : Int) else magnitude), s)
    else none
  else
    let places := (fraction.getD [])
    let (down, power) := exponent.getD (false, [])
    if !negative && overflows (Decimal.value (integral ++ places)) places.length down
        (Decimal.value power) then none
    else some (.real, s)

def word (spelling : String) (value : Value) : Reader Value := fun s =>
  if spelling.toList.isPrefixOf s then some (value, s.drop spelling.length) else none

def number : Reader Value := fun s =>
  match s with
  | '0' :: 'x' :: rest => based 16 (fun c => (hexValue? c).isSome) rest
  | '0' :: 'o' :: rest => based 8 isOctal rest
  | '0' :: 'b' :: rest => based 2 isBinary rest
  | _ =>
    let (_, unsigned) := sign s
    (word "inf" .real unsigned).orElse fun _ =>
      (word "nan" .real unsigned).orElse fun _ => decimal s

def fixed (count : Nat) : Reader Nat := fun s =>
  let found := s.take count
  if found.length = count ∧ found.all Char.isDigit then
    some (Decimal.value found, s.drop count)
  else none

def one (c : Char) : List Char → Option (List Char)
  | d :: rest => if c = d then some rest else none
  | [] => none

def isLeap (year : Nat) : Bool := year % 4 == 0 && (year % 100 != 0 || year % 400 == 0)

def monthLength (year month : Nat) : Nat :=
  if month = 2 then (if isLeap year then 29 else 28)
  else if month = 4 ∨ month = 6 ∨ month = 9 ∨ month = 11 then 30
  else 31

def date : List Char → Option (List Char) := fun s => do
  let (year, s) ← fixed 4 s
  let (month, s) ← fixed 2 (← one '-' s)
  let (day, s) ← fixed 2 (← one '-' s)
  if 1 ≤ month ∧ month ≤ 12 ∧ 1 ≤ day ∧ day ≤ monthLength year month then some s else none

/-- A time of day; a leap second is allowed. -/
def time : List Char → Option (List Char) := fun s => do
  let (hour, s) ← fixed 2 s
  let (minute, s) ← fixed 2 (← one ':' s)
  let (second, s) ← fixed 2 (← one ':' s)
  if 23 < hour ∨ 59 < minute ∨ 60 < second then none
  else match s with
    | '.' :: rest =>
      if (rest.takeWhile Char.isDigit).isEmpty then none else some (rest.dropWhile Char.isDigit)
    | s => some s

def zone : List Char → Option (List Char)
  | [] => some []
  | c :: rest =>
    if c = 'Z' ∨ c = 'z' then some rest
    else if c = '+' ∨ c = '-' then do
      let (hour, rest) ← fixed 2 rest
      let (minute, rest) ← fixed 2 (← one ':' rest)
      if hour ≤ 23 ∧ minute ≤ 59 then some rest else none
    else some (c :: rest)

/-- A date, a time, or both. A blank between them is taken only if a time follows. -/
def moment : Reader Value := fun s =>
  match date s with
  | some rest =>
    match rest with
    | c :: after =>
      if c = 'T' ∨ c = 't' ∨ c = ' ' then
        match time after with
        | some rest => (zone rest).map (.moment, ·)
        | none => if c = ' ' then some (.moment, rest) else none
      else some (.moment, rest)
    | [] => some (.moment, [])
  | none => (time s).map (.moment, ·)

def startsMoment (s : List Char) : Bool :=
  ((fixed 4 s).bind fun (_, rest) => one '-' rest).isSome ||
    ((fixed 2 s).bind fun (_, rest) => one ':' rest).isSome

end DeviceMatrix.Toml.Scan
