import DeviceMatrix.Shell.Integer

/-! Real numbers of 53 bits: the one nearest to a decimal text, and its text with a given number
of digits, rounded exactly. What lies in the middle goes to the even neighbour. -/
namespace DeviceMatrix.Shell

/-- A magnitude, as a whole number of units of a power of two, or beyond all numbers. -/
inductive Magnitude where
  | finite (units : Nat) (power : Int)
  | infinite
  | undefined
  deriving DecidableEq, Repr

structure Real where
  negative : Bool
  magnitude : Magnitude
  deriving DecidableEq, Repr

namespace Real

def power (base exponent : Nat) : Nat := Nat.pow base exponent

def divide (numerator denominator : Nat) : Nat :=
  let quotient := numerator / denominator
  let rest := numerator % denominator
  if denominator < 2 * rest ∨ (2 * rest = denominator ∧ quotient % 2 = 1) then quotient + 1
  else quotient

def scaled (base : Nat) (exponent : Int) (numerator denominator : Nat) : Nat × Nat :=
  if exponent < 0 then (numerator, denominator * power base (-exponent).toNat)
  else (numerator * power base exponent.toNat, denominator)

def leastPower : Int := -1074

def nearest (numerator denominator : Nat) : Magnitude :=
  if numerator = 0 then .finite 0 0
  else
    let guess : Int := (numerator.log2 : Int) - denominator.log2 - 53
    let unitsAt (exponent : Int) : Nat :=
      let (numerator, denominator) := scaled 2 (-exponent) numerator denominator
      divide numerator denominator
    let limit := power 2 53
    let exponent := max leastPower
      (if unitsAt guess < limit then guess
      else if unitsAt (guess + 1) < limit then guess + 1 else guess + 2)
    let units := unitsAt exponent
    if 971 < exponent then .infinite else .finite units exponent

def fraction (units : Nat) (exponent : Int) : Nat × Nat := scaled 2 exponent units 1

/-- Whether the magnitude nearest to a fraction misses it for want of greater or lesser ones. -/
def misses (numerator denominator : Nat) : Magnitude → Bool
  | .infinite | .undefined => true
  | .finite units exponent =>
    units < power 2 52 && exponent = leastPower &&
      (fraction units exponent).1 * denominator ≠ numerator * (fraction units exponent).2

structure Found where
  value : Real
  rest : List Char
  /-- Whether the number lies beyond the range, or too near to zero. -/
  excessive : Bool := false

def sign (text : List Char) : Bool × List Char :=
  match text with
  | '-' :: rest => (true, rest)
  | '+' :: rest => (false, rest)
  | text => (false, text)

def exponent (letter : Char) (text : List Char) : Int × List Char :=
  match text with
  | c :: rest =>
    if c.toLower = letter then
      let (negative, digits) := sign rest
      let (size, left) := Integer.magnitude 10 digits
      if left.length = digits.length then (0, text)
      else (if negative then -(size : Int) else size, left)
    else (0, text)
  | [] => (0, [])

def word? (word : String) (text : List Char) : Option (List Char) :=
  if (text.take word.length).map Char.toLower = word.toList then some (text.drop word.length)
  else none

/-- How numbers are written: the base of the digits and that of the exponent, how many digits of
the second base one of the first is, the letter of the exponent, and how many digits are enough
to lie beyond the range. -/
structure Writing where
  digits : Nat := 10
  powers : Nat := 10
  ratio : Nat := 1
  letter : Char := 'e'
  limit : Int := 400

/-- With `0x` in front, digits are of base sixteen, and the exponent is one of two. -/
def hexadecimal : Writing := ⟨16, 2, 4, 'p', 1600⟩

def unsigned? (writing : Writing) (negative : Bool) (text : List Char) : Option Found :=
  let isDigit (c : Char) := (Integer.digitIn? writing.digits c).isSome
  let whole := text.takeWhile isDigit
  let rest := text.drop whole.length
  let (places, rest) : List Char × List Char := match rest with
    | '.' :: rest => (rest.takeWhile isDigit, rest.dropWhile isDigit)
    | rest => ([], rest)
  if whole.isEmpty && places.isEmpty then none
  else
    let (exponent, rest) := exponent writing.letter rest
    let digits := (Integer.magnitude writing.digits (whole ++ places)).1
    let size : Int := writing.ratio * (whole.dropWhile (· = '0')).length + exponent
    let decimals : Int := writing.ratio * places.length
    if digits = 0 then some ⟨⟨negative, .finite 0 0⟩, rest, false⟩
    else if writing.limit < size then some ⟨⟨negative, .infinite⟩, rest, true⟩
    else if size + decimals < -writing.limit then some ⟨⟨negative, .finite 0 0⟩, rest, true⟩
    else
      let (numerator, denominator) := scaled writing.powers (exponent - decimals) digits 1
      let magnitude := nearest numerator denominator
      some ⟨⟨negative, magnitude⟩, rest, misses numerator denominator magnitude⟩

def parse? (text : List Char) : Option Found :=
  let (negative, text) := sign (text.dropWhile isSpace)
  match word? "infinity" text, word? "inf" text, word? "nan" text with
  | some rest, _, _ | none, some rest, _ => some ⟨⟨negative, .infinite⟩, rest, false⟩
  | none, none, some rest => some ⟨⟨negative, .undefined⟩, rest, false⟩
  | none, none, none =>
    ((word? "0x" text).bind (unsigned? hexadecimal negative)).or (unsigned? {} negative text)

def pointed (sharp : Bool) (places : Nat) (digits : List Char) : List Char :=
  let digits := List.replicate (places + 1 - digits.length) '0' ++ digits
  let whole := digits.take (digits.length - places)
  let rest := digits.drop (digits.length - places)
  if rest.isEmpty && !sharp then whole else whole ++ '.' :: rest

def fixed (sharp : Bool) (places numerator denominator : Nat) : List Char :=
  pointed sharp places (Decimal.digits (divide (numerator * power 10 places) denominator))

/-- The exponent of ten of a fraction, near enough to be one too small at most. -/
def exponentOf (numerator denominator : Nat) : Int :=
  let whole := numerator / denominator
  if 0 < whole then ((Decimal.digits whole).length : Int) - 1
  else Int.negOfNat (Decimal.digits (denominator / numerator)).length

/-- The digits of a fraction, one more than `places`, and the exponent of ten of the first. -/
def significant (places numerator denominator : Nat) : List Char × Int :=
  if numerator = 0 then (List.replicate (places + 1) '0', 0)
  else
    let digitsAt (exponent : Int) : List Char :=
      let (numerator, denominator) := scaled 10 (places - exponent) numerator denominator
      Decimal.digits (divide numerator denominator)
    let guess := exponentOf numerator denominator
    if (digitsAt guess).length ≤ places + 1 then (digitsAt guess, guess)
    else (digitsAt (guess + 1), guess + 1)

def shownExponent (letter : Char) (exponent : Int) : List Char :=
  let digits := Decimal.digits exponent.natAbs
  letter :: (if exponent < 0 then '-' else '+') ::
    (List.replicate (2 - digits.length) '0' ++ digits)

def scientific (sharp : Bool) (letter : Char) (places numerator denominator : Nat) : List Char :=
  let (digits, exponent) := significant places numerator denominator
  pointed sharp places digits ++ shownExponent letter exponent

def trimmed (text : List Char) : List Char :=
  if text.contains '.' then
    let text := (text.reverse.dropWhile (· = '0')).reverse
    if text.getLast? = some '.' then text.dropLast else text
  else text

/-- A fraction with a number of digits that count, written the shorter way. -/
def general (sharp : Bool) (letter : Char) (places numerator denominator : Nat) : List Char :=
  let count := max places 1
  let (digits, exponent) := significant (count - 1) numerator denominator
  let tidy (text : List Char) := if sharp then text else trimmed text
  if -4 ≤ exponent ∧ exponent < count then
    tidy (fixed sharp (count - 1 - exponent).toNat numerator denominator)
  else tidy (pointed sharp (count - 1) digits) ++ shownExponent letter exponent

def shownHexadecimal (sharp : Bool) (precision : Option Nat) (units : Nat) (exponent : Int) :
    List Char :=
  let shift := (min (52 - (units.log2 : Int)) (exponent - leastPower)).toNat
  let units := units * power 2 shift
  let exponent : Int := if units = 0 then 0 else exponent - shift + 52
  let places := precision.getD 13
  let digits :=
    if places < 13 then divide units (power 16 (13 - places)) else units * power 16 (places - 13)
  let digits := Nat.toDigits 16 digits
  let digits := List.replicate (places + 1 - digits.length) '0' ++ digits
  let text := pointed sharp places digits
  (if precision.isNone then trimmed text else text) ++
    'p' :: (if exponent < 0 then '-' else '+') :: Decimal.digits exponent.natAbs

def shown (sharp : Bool) (kind : Char) (precision : Option Nat) (magnitude : Magnitude) :
    List Char :=
  match magnitude with
  | .infinite => if kind.isUpper then "INF".toList else "inf".toList
  | .undefined => if kind.isUpper then "NAN".toList else "nan".toList
  | .finite units exponent =>
    let (numerator, denominator) := fraction units exponent
    let places := precision.getD 6
    match kind with
    | 'a' => shownHexadecimal sharp precision units exponent
    | 'A' => (shownHexadecimal sharp precision units exponent).map Char.toUpper
    | 'f' | 'F' => fixed sharp places numerator denominator
    | 'e' | 'E' => scientific sharp kind places numerator denominator
    | 'G' => general sharp 'E' places numerator denominator
    | _ => general sharp 'e' places numerator denominator

end Real
end DeviceMatrix.Shell
