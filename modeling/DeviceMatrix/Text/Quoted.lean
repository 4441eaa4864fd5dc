import DeviceMatrix.Text.Decimal
import DeviceMatrix.Unicode.Extending
import DeviceMatrix.Unicode.Unprintable

/-! Text shown between double quotes, for messages about text. Quotes, backslashes and the
usual controls are escaped by letter; marks and characters that show nothing are escaped by
their code point in hexadecimal. -/
namespace DeviceMatrix.Text

def hexDigit (n : Nat) : Char :=
  if n < 10 then Char.ofNat (48 + n) else Char.ofNat (87 + n)

def hexadecimal (n : Nat) : List Char :=
  if n < 16 then [hexDigit n] else hexadecimal (n / 16) ++ [hexDigit (n % 16)]
termination_by n

/-- An escape by code point: the number stands in braces. -/
def codePoint (c : Char) : List Char :=
  ['\\', 'u', '{'] ++ hexadecimal c.toNat ++ ['}']

def shown (c : Char) : List Char :=
  match c with
  | '\x00' => ['\\', '0']
  | '\t' => ['\\', 't']
  | '\n' => ['\\', 'n']
  | '\r' => ['\\', 'r']
  | '"' => ['\\', '"']
  | '\\' => ['\\', '\\']
  | c => if Unicode.isExtending c || Unicode.isUnprintable c then codePoint c else [c]

def quoted (s : String) : String :=
  "\"" ++ String.ofList (s.toList.flatMap shown) ++ "\""

def quotedList (words : List String) : String :=
  "[" ++ ", ".intercalate (words.map quoted) ++ "]"

end DeviceMatrix.Text
