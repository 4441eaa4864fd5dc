import DeviceMatrix.Shell.Bytes
import DeviceMatrix.Text.Decimal

/-! Texts in which a backslash and what follows it stand for one character. -/
namespace DeviceMatrix.Shell.Escape

def isOctal (c : Char) : Bool := '0' ≤ c && c ≤ '7'

/-- The character of an octal number, and what follows its digits, three of them at most. -/
def octal (s : List Char) : Char × List Char :=
  let digits := (s.take 3).takeWhile isOctal
  (Char.ofNat ((digits.foldl (fun n c => n * 8 + Decimal.digitValue c) 0) % 256),
    s.drop digits.length)

def letters : List (Char × Char) :=
  [('a', '\x07'), ('b', '\x08'), ('e', '\x1b'), ('f', '\x0c'), ('n', '\n'), ('r', '\r'),
    ('t', '\t'), ('v', '\x0b'), ('\\', '\\')]

/-- What stands behind a backslash, as a character, and what follows. Where nothing is meant the
backslash stands for itself. -/
def unescape (s : List Char) : Char × List Char :=
  match s with
  | [] => ('\\', [])
  | c :: rest =>
    if isOctal c then octal s
    else match letters.lookup c with
      | some meant => (meant, rest)
      | none => ('\\', s)

/-- A text with its escapes carried out, and whether printing goes on behind it. Here an octal
number can have a zero in front, and a `c` behind a backslash ends all printing. -/
def expand : Nat → List Char → List Char × Bool
  | 0, _ => ([], true)
  | _, [] => ([], true)
  | fuel + 1, '\\' :: rest =>
    if rest.head? = some 'c' then ([], false)
    else
      let rest := match rest with
        | '0' :: c :: rest => if isOctal c then c :: rest else '0' :: c :: rest
        | rest => rest
      let (c, rest) := unescape rest
      let (printed, more) := expand fuel rest
      (c :: printed, more)
  | fuel + 1, c :: rest =>
    let (printed, more) := expand fuel rest
    (c :: printed, more)

def text (s : List Char) : List Char × Bool := expand (s.length + 1) s

end DeviceMatrix.Shell.Escape
