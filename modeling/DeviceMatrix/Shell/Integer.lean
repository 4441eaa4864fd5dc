import DeviceMatrix.Shell.Bytes
import DeviceMatrix.Text.Decimal

/-! Integers of 64 bits with a sign, as texts spell them: in base ten, or in the base that the
digits say, where a zero in front means eight and `0x` sixteen. Values beyond the range count
as its end. -/
namespace DeviceMatrix.Shell.Integer

def greatest : Int := 9223372036854775807
def least : Int := -9223372036854775808

def wrap (n : Int) : Int := Int.bmod n 18446744073709551616

def unsigned (n : Int) : Nat := (n.emod 18446744073709551616).toNat

def digitIn? (base : Nat) (c : Char) : Option Nat :=
  let value :=
    if c.isDigit then c.toNat - 48
    else if 'a' ≤ c ∧ c ≤ 'f' then c.toNat - 87
    else if 'A' ≤ c ∧ c ≤ 'F' then c.toNat - 55
    else base
  if value < base then some value else none

def magnitude (base : Nat) (text : List Char) : Nat × List Char :=
  let digits := text.takeWhile fun c => (digitIn? base c).isSome
  (digits.foldl (fun n c => n * base + (digitIn? base c).getD 0) 0, text.drop digits.length)

def based : List Char → Nat × List Char
  | '0' :: 'x' :: c :: rest | '0' :: 'X' :: c :: rest =>
    if (digitIn? 16 c).isSome then (16, c :: rest) else (8, '0' :: 'x' :: c :: rest)
  | '0' :: rest => (8, '0' :: rest)
  | text => (10, text)

structure Found where
  value : Int
  rest : List Char
  excessive : Bool := false

def scan? (anyBase : Bool) (text : List Char) : Option (Bool × Nat × List Char) :=
  let text := text.dropWhile isSpace
  let (negative, text) := match text with
    | '-' :: rest => (true, rest)
    | '+' :: rest => (false, rest)
    | text => (false, text)
  let (base, text) := if anyBase then based text else (10, text)
  let (size, rest) := magnitude base text
  if rest.length = text.length then none else some (negative, size, rest)

def parse? (anyBase : Bool) (text : List Char) : Option Found :=
  (scan? anyBase text).map fun (negative, size, rest) =>
    let value : Int := if negative then -(size : Int) else size
    if greatest < value then ⟨greatest, rest, true⟩
    else if value < least then ⟨least, rest, true⟩
    else ⟨value, rest, false⟩

def whole? (text : List Char) : Option Int :=
  match parse? false text with
  | some found =>
    if found.excessive || !(found.rest.dropWhile isSpace).isEmpty then none else some found.value
  | none => none

/-- A number that commands take: not negative, and of 31 bits. -/
def small? (text : List Char) : Option Nat :=
  (whole? text).bind fun n => if 0 ≤ n ∧ n ≤ 2147483647 then some n.toNat else none

end DeviceMatrix.Shell.Integer
