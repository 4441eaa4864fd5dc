import DeviceMatrix.Text.Quoted

/-! What can be wrong with a document that should hold a record: the text ends early, is
malformed, or spells a value of another kind than the record wants. The wording of each
problem is `Problem.message`. -/
namespace DeviceMatrix.Record

/-- A value as messages describe it. Digits of real numbers are not kept. -/
inductive Found where
  | null
  | boolean (value : Bool)
  | integer (value : Int)
  | real
  | text (value : String)
  | sequence
  | map
  deriving DecidableEq, Repr

inductive Mismatch where
  | wrongType (found : Found) (wanted : String)
  | wrongInteger (value : Int) (wanted : String)
  | wrongLength (length : Nat) (wanted : String)
  | missingField (key : String)
  | duplicateField (key : String)
  | unknownVariant (name : String) (known : List String)
  /-- A choice given as a value that can hold no variant name. -/
  | neitherTextNorTable
  /-- A choice given as a table that has no entry, or more than one. -/
  | notOneEntry (empty : Bool)
  /-- A variant without content that is given a table with content. -/
  | filledTable
  /-- A variant without content that is given tables under headers. -/
  | filledArray
  | notTable (kind : String)
  deriving DecidableEq, Repr

inductive Problem where
  | ended
  | malformed
  | mismatch (mismatch : Mismatch)
  deriving DecidableEq, Repr

def ticked (s : String) : String := "`" ++ s ++ "`"

def Found.message : Found → String
  | null => "null"
  | boolean value => "boolean " ++ ticked (if value then "true" else "false")
  | integer value => "integer " ++ ticked (Decimal.ofInt value)
  | real => "floating point"
  | text value => "string " ++ Text.quoted value
  | sequence => "sequence"
  | map => "map"

/-- Two names are joined by a word, more are listed. -/
def alternatives : List String → String
  | [one] => "expected " ++ ticked one
  | [one, other] => "expected " ++ ticked one ++ " or " ++ ticked other
  | names => "expected one of " ++ ", ".intercalate (names.map ticked)

def elements (n : Nat) : String :=
  Decimal.ofNat n ++ (if n = 1 then " element" else " elements")

def Mismatch.message : Mismatch → String
  | wrongType found wanted => "invalid type: " ++ found.message ++ ", expected " ++ wanted
  | wrongInteger value wanted =>
    "invalid value: integer " ++ ticked (Decimal.ofInt value) ++ ", expected " ++ wanted
  | wrongLength length wanted =>
    "invalid length " ++ Decimal.ofNat length ++ ", expected " ++ wanted
  | missingField key => "missing field " ++ ticked key
  | duplicateField key => "duplicate field " ++ ticked key
  | unknownVariant name known => "unknown variant " ++ ticked name ++ ", " ++ alternatives known
  | neitherTextNorTable => "wanted string or table"
  | notOneEntry true => "wanted exactly 1 element, found 0 elements"
  | notOneEntry false => "wanted exactly 1 element, more than 1 element"
  | filledTable => "expected empty table"
  | filledArray => "expected empty array"
  | notTable kind => "expected table, found " ++ kind

def Problem.message : Problem → String
  | ended => "<eof>"
  | malformed => "<syntax>"
  | mismatch m => m.message

end DeviceMatrix.Record
