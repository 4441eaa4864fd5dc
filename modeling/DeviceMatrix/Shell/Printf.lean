import DeviceMatrix.Shell.Escape
import DeviceMatrix.Shell.Real

/-! Formats that words are put into. A directive behind a percent sign takes a word, and says
how it is shown. A format is used as often as there are words for it. -/
namespace DeviceMatrix.Shell.Printf

structure Directive where
  left : Bool := false
  plus : Bool := false
  blank : Bool := false
  sharp : Bool := false
  zero : Bool := false
  width : Nat := 0
  precision : Option Nat := none
  kind : Char

structure Printed where
  text : List (List Char) := []
  words : List (List Char)
  complaints : List (List Char) := []
  failed : Bool := false
  stopped : Bool := false

namespace Printed

def put (printed : Printed) (text : List Char) : Printed :=
  { printed with text := text :: printed.text }

def complain (printed : Printed) (text : List Char) : Printed :=
  { printed with complaints := text :: printed.complaints }

/-- The next word; an empty one when there are none left. -/
def take (printed : Printed) : List Char × Printed :=
  (printed.words.headD [], { printed with words := printed.words.tail })

def judge (printed : Printed) (word : List Char) (rest? : Option (List Char))
    (excessive : Bool) : Printed :=
  match rest? with
  | none =>
    if word.isEmpty then printed
    else printed.complain (word ++ ": expected numeric value".toList)
  | some (_ :: _) => printed.complain (word ++ ": not completely converted".toList)
  | some [] =>
    if excessive then printed.complain (word ++ ": Numerical result out of range".toList)
    else printed

def quoted? : List Char → Option Nat
  | '\x27' :: rest | '"' :: rest => some ((rest.head?.map Char.toNat).getD 0)
  | _ => none

def takeInteger (printed : Printed) : Int × Printed :=
  let (word, printed) := printed.take
  match quoted? word with
  | some n => (n, printed)
  | none =>
    let found := Integer.parse? true word
    ((found.map (·.value)).getD 0,
      printed.judge word (found.map (·.rest)) (found.any (·.excessive)))

def takeUnsigned (printed : Printed) : Nat × Printed :=
  let (word, printed) := printed.take
  match quoted? word with
  | some n => (n, printed)
  | none =>
    match Integer.scan? true word with
    | none => (0, printed.judge word none false)
    | some (negative, size, rest) =>
      let limit := Decimal.maxWord
      (if limit < size then limit
        else Integer.unsigned (if negative then -(size : Int) else size),
        printed.judge word (some rest) (limit < size))

def takeReal (printed : Printed) : Real × Printed :=
  let (word, printed) := printed.take
  match quoted? word with
  | some n => (⟨false, .finite n 0⟩, printed)
  | none =>
    let found := Real.parse? word
    ((found.map (·.value)).getD ⟨false, .finite 0 0⟩,
      printed.judge word (found.map (·.rest)) (found.any (·.excessive)))

end Printed

namespace Directive

def pad (directive : Directive) (text : List Char) : List Char :=
  let missing := List.replicate (directive.width - text.length) ' '
  if directive.left then text ++ missing else missing ++ text

def number (directive : Directive) (zeros : Bool) (front digits : List Char) : List Char :=
  if zeros && directive.zero && !directive.left then
    front ++ List.replicate (directive.width - front.length - digits.length) '0' ++ digits
  else directive.pad (front ++ digits)

def sign (directive : Directive) (negative : Bool) : List Char :=
  if negative then ['-']
  else if directive.plus then ['+']
  else if directive.blank then [' ']
  else []

def cut (directive : Directive) (text : List Char) : List Char :=
  match directive.precision with
  | some n => text.take n
  | none => text

def digits (directive : Directive) (text : List Char) : List Char :=
  match directive.precision with
  | none => text
  | some n => List.replicate (n - text.length) '0' ++ text

def integer (directive : Directive) (front : List Char) (base n : Nat) : List Char :=
  let shown := (Nat.toDigits base n).map fun c => if directive.kind = 'X' then c.toUpper else c
  let shown := if n = 0 ∧ directive.precision = some 0 then [] else directive.digits shown
  let shown :=
    if base = 8 ∧ directive.sharp ∧ shown.head? ≠ some '0' then '0' :: shown else shown
  let front :=
    if base = 16 ∧ directive.sharp ∧ n ≠ 0 then front ++ ['0', directive.kind] else front
  directive.number directive.precision.isNone front shown

def apply (directive : Directive) (spelling : List Char) (printed : Printed) : Printed :=
  match directive.kind with
  | 's' =>
    let (word, printed) := printed.take
    printed.put (directive.pad (directive.cut word))
  | 'c' =>
    let (word, printed) := printed.take
    printed.put (directive.pad [word.headD '\x00'])
  | 'b' =>
    let (word, printed) := printed.take
    let (text, more) := Escape.text word
    { printed.put (directive.pad (directive.cut text)) with stopped := !more }
  | 'd' | 'i' =>
    let (n, printed) := printed.takeInteger
    printed.put (directive.integer (directive.sign (n < 0)) 10 n.natAbs)
  | 'u' | 'o' | 'x' | 'X' =>
    let (n, printed) := printed.takeUnsigned
    let base := if directive.kind = 'u' then 10 else if directive.kind = 'o' then 8 else 16
    printed.put (directive.integer [] base n)
  | 'a' | 'A' | 'e' | 'E' | 'f' | 'F' | 'g' | 'G' =>
    let (real, printed) := printed.takeReal
    let finite := match real.magnitude with
      | .finite _ _ => true
      | _ => false
    let mark :=
      if !finite then [] else if directive.kind = 'a' then ['0', 'x']
      else if directive.kind = 'A' then ['0', 'X'] else []
    printed.put (directive.number finite (directive.sign real.negative ++ mark)
      (Real.shown directive.sharp directive.kind directive.precision real.magnitude))
  | _ =>
    { printed.complain (spelling ++ ": invalid directive".toList) with
      failed := true, stopped := true }

end Directive

/-- A number in a directive: digits, or the next word in place of a star. -/
def count (s : List Char) (printed : Printed) : Option Int × List Char × Printed :=
  match s with
  | '*' :: rest =>
    let (n, printed) := printed.takeInteger
    (some n, rest, printed)
  | s =>
    let (n, rest) := Integer.magnitude 10 s
    (if rest.length = s.length then none else some n, rest, printed)

def directive (s : List Char) (printed : Printed) : List Char × Printed :=
  let flags := s.takeWhile fun c => ['-', '0', '+', ' ', '#'].contains c
  let (width, rest, printed) := count (s.drop flags.length) printed
  let (precision, rest, printed) : Option Int × List Char × Printed := match rest with
    | '.' :: rest =>
      let (precision, rest, printed) := count rest printed
      (some (precision.getD 0), rest, printed)
    | rest => (none, rest, printed)
  match rest with
  | [] =>
    ([], { printed.complain "missing format character".toList with
      failed := true, stopped := true })
  | kind :: behind =>
    let spelling := '%' :: s.take (s.length - behind.length)
    let directive : Directive :=
      { left := flags.contains '-' || width.any (· < 0), plus := flags.contains '+'
        blank := flags.contains ' ', sharp := flags.contains '#', zero := flags.contains '0'
        width := (width.getD 0).natAbs
        precision := precision.bind fun n => if n < 0 then none else some n.toNat, kind }
    (behind, directive.apply spelling printed)

def pass : Nat → List Char → Printed → Printed
  | 0, _, printed => printed
  | _, [], printed => printed
  | fuel + 1, '%' :: '%' :: rest, printed => pass fuel rest (printed.put ['%'])
  | fuel + 1, '%' :: rest, printed =>
    let (rest, printed) := directive rest printed
    if printed.stopped then printed else pass fuel rest printed
  | fuel + 1, '\\' :: rest, printed =>
    let (c, rest) := Escape.unescape rest
    pass fuel rest (printed.put [c])
  | fuel + 1, c :: rest, printed => pass fuel rest (printed.put [c])

/-- A format is used again while it takes words and some are left. -/
def passes (format : List Char) : Nat → Printed → Printed
  | 0, printed => printed
  | fuel + 1, printed =>
    let after := pass (format.length + 1) format printed
    if after.stopped ∨ after.words.isEmpty ∨ after.words.length = printed.words.length then after
    else passes format fuel after

structure Result where
  text : List Char
  complaints : List (List Char)
  failed : Bool

def run (format : List Char) (words : List (List Char)) : Result :=
  let printed := passes format (words.length + 1) { words }
  ⟨printed.text.reverse.flatten, printed.complaints.reverse, printed.failed⟩

end DeviceMatrix.Shell.Printf
