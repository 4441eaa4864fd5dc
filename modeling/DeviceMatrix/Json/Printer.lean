import DeviceMatrix.Text.Decimal
import DeviceMatrix.Text.Quoted

/-! JSON text for values, in two layouts: `compact` without any space, and `pretty` with one
item or member a line, indented by two blanks. Only quotes, backslashes and the controls
below the blank are escaped. -/
namespace DeviceMatrix.Json

inductive Value where
  | null
  | flag (value : Bool)
  | integer (value : Int)
  | text (content : String)
  | array (items : List Value)
  | object (members : List (String × Value))

/-- Controls without a letter are written with four hexadecimal digits. -/
def escape (c : Char) : List Char :=
  match c with
  | '"' => ['\\', '"']
  | '\\' => ['\\', '\\']
  | '\x08' => ['\\', 'b']
  | '\t' => ['\\', 't']
  | '\n' => ['\\', 'n']
  | '\x0c' => ['\\', 'f']
  | '\r' => ['\\', 'r']
  | c =>
    if c < ' ' then
      ['\\', 'u', '0', '0', Text.hexDigit (c.toNat / 16), Text.hexDigit (c.toNat % 16)]
    else [c]

def printText (content : String) : List Char := '"' :: content.toList.flatMap escape ++ ['"']

def word (value : Bool) : List Char :=
  if value then ['t', 'r', 'u', 'e'] else ['f', 'a', 'l', 's', 'e']

mutual

def print : Value → List Char
  | .null => ['n', 'u', 'l', 'l']
  | .flag value => word value
  | .integer value => Decimal.signed value
  | .text content => printText content
  | .array [] => ['[', ']']
  | .array (item :: items) => '[' :: print item ++ printItems items ++ [']']
  | .object [] => ['\x7b', '\x7d']
  | .object ((key, value) :: members) =>
    '\x7b' :: printText key ++ ':' :: print value ++ printMembers members ++ ['\x7d']

def printItems : List Value → List Char
  | [] => []
  | item :: items => ',' :: print item ++ printItems items

def printMembers : List (String × Value) → List Char
  | [] => []
  | (key, value) :: members => ',' :: printText key ++ ':' :: print value ++ printMembers members

end

def newLine (depth : Nat) : List Char := '\n' :: List.replicate (2 * depth) ' '

mutual

def layout (depth : Nat) : Value → List Char
  | .null => ['n', 'u', 'l', 'l']
  | .flag value => word value
  | .integer value => Decimal.signed value
  | .text content => printText content
  | .array [] => ['[', ']']
  | .array (item :: items) =>
    '[' :: newLine (depth + 1) ++ layout (depth + 1) item ++ layoutItems (depth + 1) items ++
      newLine depth ++ [']']
  | .object [] => ['\x7b', '\x7d']
  | .object ((key, value) :: members) =>
    '\x7b' :: newLine (depth + 1) ++ printText key ++ ':' :: ' ' :: layout (depth + 1) value ++
      layoutMembers (depth + 1) members ++ newLine depth ++ ['\x7d']

def layoutItems (depth : Nat) : List Value → List Char
  | [] => []
  | item :: items => ',' :: newLine depth ++ layout depth item ++ layoutItems depth items

def layoutMembers (depth : Nat) : List (String × Value) → List Char
  | [] => []
  | (key, value) :: members =>
    ',' :: newLine depth ++ printText key ++ ':' :: ' ' :: layout depth value ++
      layoutMembers depth members

end

def Value.compact (value : Value) : String := String.ofList (print value)
def Value.pretty (value : Value) : String := String.ofList (layout 0 value)

end DeviceMatrix.Json
