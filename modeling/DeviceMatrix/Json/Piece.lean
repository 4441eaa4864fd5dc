import DeviceMatrix.Json.Source
import DeviceMatrix.Text.Utf8

/-! Texts between quotes in JSON. `scan` takes a text apart into characters, units named by
four hexadecimal digits, and stray bytes; that much is checked of a text that is skipped.
`content?` joins the units into characters, which fails for a surrogate without its partner. -/
namespace DeviceMatrix.Json

open Text (Symbol)

inductive Piece where
  | char (c : Char)
  /-- A number of 16 bits: a character, or one of the two surrogates of a character. -/
  | unit (value : Nat)
  | stray
  deriving DecidableEq, Repr

def isLeading (unit : Nat) : Bool := 0xd800 ≤ unit && unit ≤ 0xdbff
def isTrailing (unit : Nat) : Bool := 0xdc00 ≤ unit && unit ≤ 0xdfff

def joined (leading trailing : Nat) : Char :=
  Char.ofNat (0x10000 + (leading - 0xd800) * 0x400 + (trailing - 0xdc00))

def hexValue? (c : Char) : Option Nat :=
  if c.isDigit then some (c.toNat - 48)
  else if 'a' ≤ c ∧ c ≤ 'f' then some (c.toNat - 87)
  else if 'A' ≤ c ∧ c ≤ 'F' then some (c.toNat - 55)
  else none

def size (s : List Symbol) : Nat := s.foldr (fun symbol bytes => symbol.size + bytes) 0

def fourHex : List Symbol → Option (Nat × List Symbol)
  | .char a :: .char b :: .char c :: .char d :: rest => do
    let a ← hexValue? a
    let b ← hexValue? b
    let c ← hexValue? c
    let d ← hexValue? d
    return (((a * 16 + b) * 16 + c) * 16 + d, rest)
  | _ => none

theorem length_fourHex_le {s rest : List Symbol} {value : Nat}
    (h : fourHex s = some (value, rest)) : rest.length ≤ s.length := by
  unfold fourHex at h
  split at h
  · simp [bind, Option.bind_eq_some_iff] at h
    obtain ⟨_, _, _, _, _, _, _, _, _, rfl⟩ := h
    simp
    omega
  · simp at h

/-- The unit that four hexadecimal digits spell. A text with less than four bytes left is
unfinished, whatever they are. -/
def scanUnit (s : List Symbol) : Except Cause (Piece × List Symbol) :=
  match fourHex s with
  | some (value, rest) => .ok (.unit value, rest)
  | none => .error (if size s < 4 then .ended else .malformed)

def escapes : List (Char × Char) :=
  [('"', '"'), ('\\', '\\'), ('/', '/'), ('b', '\x08'), ('f', '\x0c'), ('n', '\n'), ('r', '\r'),
    ('t', '\t')]

def scanEscape : List Symbol → Except Cause (Piece × List Symbol)
  | [] => .error .ended
  | .stray _ :: _ => .error .malformed
  | .char c :: rest =>
    if c = 'u' then scanUnit rest
    else match escapes.lookup c with
      | some meant => .ok (.char meant, rest)
      | none => .error .malformed

theorem length_scanEscape_le {s rest : List Symbol} {piece : Piece}
    (h : scanEscape s = .ok (piece, rest)) : rest.length ≤ s.length := by
  unfold scanEscape at h
  split at h
  · simp at h
  · simp at h
  · split at h
    · unfold scanUnit at h
      split at h
      · rename_i heq
        have := length_fourHex_le heq
        simp_all
        omega
      · simp at h
    · split at h <;> simp_all

def scan : List Symbol → List Piece × Except Cause (List Symbol)
  | [] => ([], .error .ended)
  | .stray _ :: rest =>
    let (pieces, close) := scan rest
    (.stray :: pieces, close)
  | .char c :: rest =>
    if c = '"' then ([], .ok rest)
    else if c = '\\' then
      match _h : scanEscape rest with
      | .error cause => ([], .error cause)
      | .ok (piece, left) =>
        let (pieces, close) := scan left
        (piece :: pieces, close)
    else if c < ' ' then ([], .error .malformed)
    else
      let (pieces, close) := scan rest
      (.char c :: pieces, close)
termination_by s => s.length
decreasing_by
  · simp
  · have := length_scanEscape_le _h
    simp
    omega
  · simp

theorem length_scan_le {s rest : List Symbol} (h : (scan s).2 = .ok rest) :
    rest.length ≤ s.length := by
  fun_induction scan s <;> simp_all
  case case5 piece left heq pieces close hs ih =>
    have := length_scanEscape_le heq
    omega
  all_goals omega

/-- The characters, if every unit is one or has its partner beside it. -/
def content? : List Piece → Option (List Char)
  | [] => some []
  | .char c :: rest => (content? rest).map (c :: ·)
  | .stray :: _ => none
  | .unit leading :: .unit trailing :: rest =>
    if isLeading leading then
      if isTrailing trailing then (content? rest).map (joined leading trailing :: ·) else none
    else if isTrailing leading then none
    else (content? (.unit trailing :: rest)).map (Char.ofNat leading :: ·)
  | .unit value :: rest =>
    if isLeading value || isTrailing value then none
    else (content? rest).map (Char.ofNat value :: ·)

/-- Whether some surrogate lacks its partner however the text goes on. -/
def unpaired : List Piece → Bool
  | [] => false
  | .unit leading :: .unit trailing :: rest =>
    if isLeading leading then !isTrailing trailing || unpaired rest
    else isTrailing leading || unpaired (.unit trailing :: rest)
  | [.unit value] => isTrailing value
  | .unit value :: rest => isLeading value || isTrailing value || unpaired rest
  | _ :: rest => unpaired rest

end DeviceMatrix.Json
