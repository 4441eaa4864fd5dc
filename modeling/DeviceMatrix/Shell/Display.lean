import DeviceMatrix.Shell.Bytes
import DeviceMatrix.Text.Decimal

/-! How `cat` shows what it copies: with numbers in front of lines, with marks at their ends, or
with signs for characters that cannot be seen. -/
namespace DeviceMatrix.Shell

structure Display where
  numbered : Bool := false
  /-- Empty lines are not numbered. -/
  sparing : Bool := false
  /-- Of several empty lines one is kept. -/
  squeezed : Bool := false
  ends : Bool := false
  tabs : Bool := false
  visible : Bool := false
  deriving DecidableEq, Repr

namespace Display

structure Place where
  number : Nat := 0
  atStart : Bool := true
  empty : Nat := 0
  deriving DecidableEq, Repr

def numeral (number : Nat) : List Char :=
  let digits := Decimal.digits number
  List.replicate (6 - digits.length) ' ' ++ digits ++ ['\t']

/-- A character of seven bits, with a sign in its place if it cannot be seen. -/
def sign (n : Nat) : List Char :=
  if n < 32 then ['^', Char.ofNat (n + 64)]
  else if n = 127 then ['^', '?']
  else [Char.ofNat n]

def character (display : Display) (c : Char) : List Char :=
  if c = '\t' then if display.tabs then ['^', 'I'] else [c]
  else if !display.visible then [c]
  else if c.toNat < 128 then sign c.toNat
  else 'M' :: '-' :: sign (c.toNat - 128)

def changed (display : Display) : Place → List Char → List Char × Place
  | place, [] => ([], place)
  | place, '\n' :: rest =>
    let ending := if display.ends then ['$', '\n'] else ['\n']
    if place.atStart then
      let place := { place with empty := place.empty + 1 }
      if display.squeezed && 1 < place.empty then changed display place rest
      else
        let counts := display.numbered && !display.sparing
        let number := if counts then place.number + 1 else place.number
        let (shown, after) := changed display { place with number } rest
        ((if counts then numeral number else []) ++ ending ++ shown, after)
    else
      let (shown, after) := changed display { place with atStart := true, empty := 0 } rest
      (ending ++ shown, after)
  | place, c :: rest =>
    let front := if place.atStart && display.numbered then numeral (place.number + 1) else []
    let number := if front.isEmpty then place.number else place.number + 1
    let returns := c = '\r' && display.ends && rest.head? = some '\n'
    let shown := if returns then ['^', 'M'] else display.character c
    let (others, after) := changed display ⟨number, false, 0⟩ rest
    (front ++ shown ++ others, after)

def text (display : Display) (place : Place) (text : List Char) : List Char × Place :=
  if display = {} then (text, place) else changed display place text

def letter? (display : Display) : Char → Option Display
  | 'A' => some { display with visible := true, ends := true, tabs := true }
  | 'b' => some { display with numbered := true, sparing := true }
  | 'e' => some { display with visible := true, ends := true }
  | 'E' => some { display with ends := true }
  | 'n' => some { display with numbered := true }
  | 's' => some { display with squeezed := true }
  | 't' => some { display with visible := true, tabs := true }
  | 'T' => some { display with tabs := true }
  | 'u' => some display
  | 'v' => some { display with visible := true }
  | _ => none

def named : List (String × Char) :=
  [("show-all", 'A'), ("number-nonblank", 'b'), ("show-ends", 'E'), ("number", 'n'),
    ("squeeze-blank", 's'), ("show-tabs", 'T'), ("show-nonprinting", 'v')]

/-- What several letters ask for, or the first that asks for nothing. -/
def letters : Display → List Char → Except Char Display
  | display, [] => .ok display
  | display, c :: rest =>
    match display.letter? c with
    | some display => letters display rest
    | none => .error c

def ofWords : Display → List (List Char) → Except (List Char) (Display × List (List Char))
  | display, [] => .ok (display, [])
  | display, ['-', '-'] :: words => .ok (display, words)
  | display, ('-' :: '-' :: name) :: words =>
    match (named.lookup (toText name)).bind display.letter? with
    | some display => ofWords display words
    | none => .error ("unrecognized option '--".toList ++ name ++ ['\x27'])
  | display, ('-' :: c :: rest) :: words =>
    match letters display (c :: rest) with
    | .ok display => ofWords display words
    | .error wrong => .error ("invalid option -- '".toList ++ [wrong] ++ ['\x27'])
  | display, word :: words =>
    (ofWords display words).map fun (display, others) => (display, word :: others)

end Display
end DeviceMatrix.Shell
