/-! Numbers as decimal text. `digits` writes a natural number without leading zeros;
`value` reads any run of digits; `word?` is the reading of unsigned 64-bit options and
page tokens, which allow one plus sign and leading zeros. -/
namespace DeviceMatrix.Decimal

def digitChar (n : Nat) : Char := Char.ofNat (48 + n)

def digitValue (c : Char) : Nat := c.toNat - 48

def digits (n : Nat) : List Char :=
  if n < 10 then [digitChar n] else digits (n / 10) ++ [digitChar (n % 10)]
termination_by n

def value (s : List Char) : Nat := s.foldl (fun n c => n * 10 + digitValue c) 0

def ofNat (n : Nat) : String := String.ofList (digits n)

def signed : Int → List Char
  | .ofNat n => digits n
  | .negSucc n => '-' :: digits (n + 1)

def ofInt (n : Int) : String := String.ofList (signed n)

def natural? (s : List Char) : Option Nat :=
  if s ≠ [] ∧ s.all Char.isDigit then some (value s) else none

def maxWord : Nat := 18446744073709551615

def maxInteger : Nat := 9223372036854775807

/-- The least number that becomes infinite when it is rounded to 53 binary digits. -/
def infinite : Nat := Nat.pow 2 1024 - Nat.pow 2 970

/-- An unsigned 64-bit number, with or without a plus sign. -/
def word? (s : List Char) : Option Nat :=
  (natural? (match s with | '+' :: rest => rest | _ => s)).filter (· ≤ maxWord)

end DeviceMatrix.Decimal
