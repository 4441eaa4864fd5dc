import DeviceMatrix.Json.Numeral
import DeviceMatrix.Json.Piece

/-! JSON text as tokens. Every text has tokens: what is no token ends them as a broken one. -/
namespace DeviceMatrix.Json

open Text (Symbol)

inductive Token where
  | beginObject
  | endObject
  | beginArray
  | endArray
  | comma
  | colon
  /-- A number, `true`, `false` or `null`, or what stands in its place and is none. -/
  | scalar (value : Source)
  | text (content : Option String)
  | brokenText (fault : Fault)

def expect : List Char → List Symbol → Except Cause (List Symbol)
  | [], s => .ok s
  | _ :: _, [] => .error .ended
  | c :: word, symbol :: s => if symbol = .char c then expect word s else .error .malformed

theorem length_expect_le {word : List Char} {s rest : List Symbol}
    (h : expect word s = .ok rest) : rest.length ≤ s.length := by
  fun_induction expect word s <;> simp_all
  omega

namespace Token

def literal (word : List Char) (value : Source) (s : List Symbol) : Token × List Symbol :=
  match expect word s with
  | .ok rest => (scalar value, rest)
  | .error cause => (scalar (.misspelt (.same cause)), [])

def numeral (negative : Bool) (s : List Symbol) : Token × List Symbol :=
  match Numeral.scan negative s with
  | .ok (numeral, rest) => (scalar (.number numeral.number), rest)
  | .error fault => (scalar (.misspelt fault), [])

def quoted (s : List Symbol) : Token × List Symbol :=
  match scan s with
  | (pieces, .ok rest) => (text ((content? pieces).map String.ofList), rest)
  | (pieces, .error cause) =>
    (brokenText ⟨if unpaired pieces then .malformed else cause, cause⟩, [])

def junk : Token × List Symbol := (scalar (.broken .malformed), [])

def next (c : Char) (rest : List Symbol) : Token × List Symbol :=
  match c with
  | '\x7b' => (beginObject, rest)
  | '\x7d' => (endObject, rest)
  | '[' => (beginArray, rest)
  | ']' => (endArray, rest)
  | ',' => (comma, rest)
  | ':' => (colon, rest)
  | '"' => quoted rest
  | '-' => numeral true rest
  | 'n' => literal ['u', 'l', 'l'] .null rest
  | 't' => literal ['r', 'u', 'e'] (.flag true) rest
  | 'f' => literal ['a', 'l', 's', 'e'] (.flag false) rest
  | c => if c.isDigit then numeral false (.char c :: rest) else junk

theorem length_next_le (c : Char) (rest : List Symbol) : (next c rest).2.length ≤ rest.length := by
  have word (word : List Char) (value : Source) :
      (literal word value rest).2.length ≤ rest.length := by
    unfold literal
    split
    · exact length_expect_le ‹_›
    · simp
  unfold next
  split <;> try simp
  · unfold quoted
    split
    · rename_i heq
      exact length_scan_le (by rw [heq])
    · simp
  · unfold numeral
    split
    · rename_i heq
      have := Numeral.length_scan_lt heq
      dsimp
      omega
    · simp
  · exact word _ _
  · exact word _ _
  · exact word _ _
  · split
    · unfold numeral
      split
      · rename_i heq
        have := Numeral.length_scan_lt heq
        simp at this
        dsimp
        omega
      · simp
    · simp [junk]

end Token

def isSpace (c : Char) : Bool := c == ' ' || c == '\t' || c == '\n' || c == '\r'

/-- The tokens of a text. -/
def tokens : List Symbol → List Token
  | [] => []
  | .stray _ :: _ => [Token.junk.1]
  | .char c :: rest =>
    if isSpace c then tokens rest
    else (Token.next c rest).1 :: tokens (Token.next c rest).2
termination_by s => s.length
decreasing_by
  · simp
  · have := Token.length_next_le c rest
    simp
    omega

end DeviceMatrix.Json
