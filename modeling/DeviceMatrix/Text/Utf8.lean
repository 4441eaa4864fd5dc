/-! Bytes read as UTF-8 without ever failing. A byte stream becomes a list of symbols:
the characters it encodes and, between them, the longest runs of bytes that begin a
character and do not complete one. Readers that need text ask for it with `text?`;
messages use `lossy`. -/
namespace DeviceMatrix.Text

/-- A character, or the bytes of an ill-formed run. -/
inductive Symbol where
  | char (c : Char)
  | stray (bytes : List UInt8)
  deriving DecidableEq, Repr

namespace Symbol

def size : Symbol → Nat
  | char c => c.utf8Size
  | stray bytes => bytes.length

def ofText (s : List Char) : List Symbol := s.map char

def ofString (s : String) : List Symbol := ofText s.toList

def text? (symbols : List Symbol) : Option (List Char) :=
  symbols.mapM fun
    | char c => some c
    | stray _ => none

/-- Each ill-formed run shows as one replacement character. -/
def lossy (symbols : List Symbol) : List Char :=
  symbols.map fun
    | char c => c
    | stray _ => '\ufffd'

end Symbol

/-- A character under way: its bytes so far, the code point they spell, how many bytes
are owed, and the range in which the next one must lie. -/
structure Pending where
  bytes : List UInt8
  point : Nat
  owed : Nat
  low : UInt8
  high : UInt8

/-- The state after a first byte, unless that byte stands alone or begins nothing. -/
def Pending.lead (b : UInt8) : Option Pending :=
  if 0xc2 ≤ b ∧ b ≤ 0xdf then some ⟨[b], b.toNat - 0xc0, 1, 0x80, 0xbf⟩
  else if b = 0xe0 then some ⟨[b], 0, 2, 0xa0, 0xbf⟩
  else if b = 0xed then some ⟨[b], 0xd, 2, 0x80, 0x9f⟩
  else if 0xe1 ≤ b ∧ b ≤ 0xef then some ⟨[b], b.toNat - 0xe0, 2, 0x80, 0xbf⟩
  else if b = 0xf0 then some ⟨[b], 0, 3, 0x90, 0xbf⟩
  else if 0xf1 ≤ b ∧ b ≤ 0xf3 then some ⟨[b], b.toNat - 0xf0, 3, 0x80, 0xbf⟩
  else if b = 0xf4 then some ⟨[b], 4, 3, 0x80, 0x8f⟩
  else none

def begin (b : UInt8) : List Symbol × Option Pending :=
  if b < 0x80 then ([.char (Char.ofNat b.toNat)], none)
  else match Pending.lead b with
    | some p => ([], some p)
    | none => ([.stray [b]], none)

/-- One more byte. A byte that cannot continue the character under way ends it as a stray
run and starts afresh. -/
def advance : Option Pending → UInt8 → List Symbol × Option Pending
  | none, b => begin b
  | some p, b =>
    if p.low ≤ b ∧ b ≤ p.high then
      let point := p.point * 64 + (b.toNat - 0x80)
      if p.owed ≤ 1 then ([.char (Char.ofNat point)], none)
      else ([], some ⟨p.bytes ++ [b], point, p.owed - 1, 0x80, 0xbf⟩)
    else
      let (out, next) := begin b
      (.stray p.bytes :: out, next)

def decodeFrom : Option Pending → List UInt8 → List Symbol
  | none, [] => []
  | some p, [] => [.stray p.bytes]
  | state, b :: rest =>
    let (out, next) := advance state b
    out ++ decodeFrom next rest

def decode (bytes : List UInt8) : List Symbol := decodeFrom none bytes

def encode (s : String) : List UInt8 := s.toUTF8.toList

end DeviceMatrix.Text
