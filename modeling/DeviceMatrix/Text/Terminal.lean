import DeviceMatrix.Text.Quoted

/-! Text on its way to a terminal. The characters that could start a control sequence there,
ring its bell or move its cursor are shown by their numbers. -/
namespace DeviceMatrix.Text

def tamed (c : Char) : List Char :=
  if c == '\x07' || c == '\x08' || c == '\x0c' || c == '\x1b' || c == '\x7f' then
    ['\\', 'x', hexDigit (c.toNat / 16), hexDigit (c.toNat % 16)]
  else if 0x80 ≤ c.toNat && c.toNat ≤ 0x9f then codePoint c
  else [c]

def forTerminal (s : String) : String := String.ofList (s.toList.flatMap tamed)

end DeviceMatrix.Text
