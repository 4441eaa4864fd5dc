import DeviceMatrix.Text.Utf8

/-! A shell works on bytes. Here a byte is the character of its number, and a text of a shell is
a list of such characters; it never holds the byte zero. -/
namespace DeviceMatrix.Shell

def ofBytes (content : List UInt8) : List Char := content.map fun b => Char.ofNat b.toNat

def toBytes (text : List Char) : List UInt8 := text.map fun c => c.toNat.toUInt8

def ofText (text : String) : List Char := ofBytes (Text.encode text)

def toText (bytes : List Char) : String :=
  String.ofList (Text.Symbol.lossy (Text.decode (toBytes bytes)))

def withoutZeros (bytes : List Char) : List Char := bytes.filter (· ≠ '\x00')

def isBlank (c : Char) : Bool := c == ' ' || c == '\t'

/-- What separates words unless something else is asked for. -/
def isSpacing (c : Char) : Bool := isBlank c || c == '\n'

def isSpace (c : Char) : Bool := isSpacing c || c == '\r' || c == '\x0b' || c == '\x0c'

def isNameStart (c : Char) : Bool := c.isAlpha || c == '_'
def isNameChar (c : Char) : Bool := c.isAlphanum || c == '_'

def isName (text : List Char) : Bool := text.head?.any isNameStart && text.all isNameChar

end DeviceMatrix.Shell
