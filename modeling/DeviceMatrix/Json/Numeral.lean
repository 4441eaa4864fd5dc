import DeviceMatrix.Json.Source
import DeviceMatrix.Text.Decimal
import DeviceMatrix.Text.Utf8

/-! Numbers in JSON text. `Numeral.scan` takes the longest numeral and says what is wrong if
there is none; `Numeral.number` is what it stands for. A real number is computed from at most
64 bits of its digits and one rounded power of ten, and is vast when that product rounds to
infinity. -/
namespace DeviceMatrix.Json

open Text (Symbol)

/-- The parts of a numeral as written. -/
structure Numeral where
  negative : Bool
  whole : List Char
  fraction : Option (List Char) := none
  /-- Whether the exponent has a minus sign, and its digits. -/
  exponent : Option (Bool × List Char) := none
  deriving DecidableEq, Repr

def spanDigits : List Symbol → List Char × List Symbol
  | .char c :: rest =>
    if c.isDigit then
      let (digits, rest) := spanDigits rest
      (c :: digits, rest)
    else ([], .char c :: rest)
  | rest => ([], rest)

theorem length_spanDigits (s : List Symbol) :
    (spanDigits s).1.length + (spanDigits s).2.length = s.length := by
  fun_induction spanDigits s with
  | case1 c rest digit digits left read ih =>
    simp only [read] at ih
    simp only [List.length_cons, ← ih]
    omega
  | case2 => simp
  | case3 => simp

/-- At least one digit. A text that ends here is unfinished, except for a reader that skips. -/
def someDigits (s : List Symbol) : Except Fault (List Char × List Symbol) :=
  let (digits, rest) := spanDigits s
  if digits ≠ [] then .ok (digits, rest)
  else .error (if rest = [] then ⟨.ended, .malformed⟩ else .malformed)

theorem length_someDigits_lt {s rest : List Symbol} {digits : List Char}
    (h : someDigits s = .ok (digits, rest)) : rest.length < s.length := by
  have total := length_spanDigits s
  unfold someDigits at h
  split at h
  split at h
  · rename_i nonempty
    have := List.length_pos_iff.2 nonempty
    simp_all
    omega
  · simp at h

namespace Numeral

/-- The digits before the point: a single zero, or digits that do not start with one. -/
def scanWhole (s : List Symbol) : Except Fault (List Char × List Symbol) := do
  let (digits, rest) ← someDigits s
  match digits with
  | '0' :: _ :: _ => throw .malformed
  | _ => return (digits, rest)

def scanFraction : List Symbol → Except Fault (Option (List Char) × List Symbol)
  | .char '.' :: rest => do
    let (digits, rest) ← someDigits rest
    return (some digits, rest)
  | s => .ok (none, s)

def scanSign : List Symbol → Bool × List Symbol
  | .char '-' :: rest => (true, rest)
  | .char '+' :: rest => (false, rest)
  | s => (false, s)

def scanExponent : List Symbol → Except Fault (Option (Bool × List Char) × List Symbol)
  | .char c :: rest =>
    if c = 'e' ∨ c = 'E' then do
      let (negative, rest) := scanSign rest
      let (digits, rest) ← someDigits rest
      return (some (negative, digits), rest)
    else .ok (none, .char c :: rest)
  | s => .ok (none, s)

def scan (negative : Bool) (s : List Symbol) : Except Fault (Numeral × List Symbol) := do
  let (whole, s) ← scanWhole s
  let (fraction, s) ← scanFraction s
  let (exponent, s) ← scanExponent s
  return (⟨negative, whole, fraction, exponent⟩, s)

theorem length_scanWhole_lt {s rest : List Symbol} {digits : List Char}
    (h : scanWhole s = .ok (digits, rest)) : rest.length < s.length := by
  simp only [scanWhole, bind, Except.bind] at h
  split at h
  · simp at h
  · rename_i result heq
    obtain ⟨found, left⟩ := result
    have := length_someDigits_lt heq
    split at h <;> simp_all [throw, throwThe, MonadExceptOf.throw, pure, Except.pure]

theorem length_scanFraction_le {s rest : List Symbol} {digits : Option (List Char)}
    (h : scanFraction s = .ok (digits, rest)) : rest.length ≤ s.length := by
  unfold scanFraction at h
  split at h
  · simp only [bind, Except.bind] at h
    split at h
    · simp at h
    · rename_i result heq
      have := length_someDigits_lt heq
      simp_all [pure, Except.pure]
      omega
  · simp_all

theorem length_scanSign_le (s : List Symbol) : (scanSign s).2.length ≤ s.length := by
  unfold scanSign
  split <;> simp

theorem length_scanExponent_le {s rest : List Symbol} {exponent : Option (Bool × List Char)}
    (h : scanExponent s = .ok (exponent, rest)) : rest.length ≤ s.length := by
  unfold scanExponent at h
  split at h
  · split at h
    · simp only [bind, Except.bind] at h
      split at h
      · simp at h
      · rename_i tail _ _ result heq
        have bound := length_someDigits_lt heq
        have := length_scanSign_le tail
        simp_all [pure, Except.pure]
        omega
    · simp_all
  · simp_all

/-- A numeral takes at least its first digit. -/
theorem length_scan_lt {negative : Bool} {s rest : List Symbol} {numeral : Numeral}
    (h : scan negative s = .ok (numeral, rest)) : rest.length < s.length := by
  simp only [scan, bind, Except.bind] at h
  split at h
  · simp at h
  rename_i whole hw
  split at h
  · simp at h
  rename_i fraction hf
  split at h
  · simp at h
  rename_i exponent he
  have := length_scanWhole_lt hw
  have := length_scanFraction_le hf
  have := length_scanExponent_le he
  simp_all [pure, Except.pure]
  omega

/-- Takes digits into the significand while it fits 64 bits. The answer also holds the
digits that were left. -/
def absorb (significand : Nat) : List Char → Nat × List Char
  | [] => (significand, [])
  | c :: rest =>
    let next := significand * 10 + Decimal.digitValue c
    if next ≤ Decimal.maxWord then absorb next rest else (significand, c :: rest)

/-- Rounds to 53 binary digits, a half to the even neighbour. -/
def round53 (n : Nat) : Nat :=
  if n.log2 < 53 then n
  else
    let unit := Nat.pow 2 (n.log2 - 52)
    let quotient := n / unit
    let remainder := n % unit
    let up := 2 * remainder > unit ∨ (2 * remainder = unit ∧ quotient % 2 = 1)
    (if up then quotient + 1 else quotient) * unit

def overflows (significand : Nat) (power : Int) : Bool :=
  if significand = 0 ∨ power < 0 then false
  else if power > 308 then true
  else round53 significand * round53 (Nat.pow 10 power.toNat) ≥ Decimal.infinite

def real (n : Numeral) : Number :=
  let (significand, extra) := absorb 0 n.whole
  let (significand, places) := match n.fraction with
    | none => (significand, 0)
    | some digits =>
      let (full, left) := absorb significand digits
      (full, digits.length - left.length)
  let power : Int := match n.exponent with
    | none => 0
    | some (true, digits) => -(Decimal.value digits : Int)
    | some (false, digits) => Decimal.value digits
  if overflows significand (extra.length - places + power) then .vast else .real

/-- Without point and exponent an integer is meant, if it fits 64 bits; there is no integer
minus zero. -/
def number (n : Numeral) : Number :=
  if n.fraction = none ∧ n.exponent = none then
    let magnitude := Decimal.value n.whole
    if n.negative then
      if 0 < magnitude ∧ magnitude ≤ Decimal.maxInteger + 1 then .integer (-(magnitude : Int))
      else n.real
    else if magnitude ≤ Decimal.maxWord then .integer magnitude
    else n.real
  else n.real

end Numeral
end DeviceMatrix.Json
