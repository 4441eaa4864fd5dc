import DeviceMatrix.Json.Printer
import DeviceMatrix.Json.Reader
import DeviceMatrix.Record.Fields

/-! Records in JSON. A codec reads a type from the tree of a text and writes it as a value.
A record is read from an object, whose unknown members are skipped, or from an array of its
fields in declaration order; it is always written as an object. -/
namespace DeviceMatrix.Json

open Record (Field Fields Problem Row Slots)

structure Codec (α : Type) where
  read : Source → Except Problem α
  write : α → Value

/-- One field of a record: how it is read, and how it is written, if it is. -/
structure Member (α : Type) extends Field Source α where
  write : α → Option Value

namespace Member

def required {α : Type} (key : String) (codec : Codec α) : Member α where
  key := key
  read := codec.read
  absent := none
  write content := some (codec.write content)

/-- A field that stands for `initial` when it is absent, and is always written. -/
def defaulted {α : Type} (key : String) (codec : Codec α) (initial : α) : Member α where
  key := key
  read := codec.read
  absent := some initial
  write content := some (codec.write content)

/-- A field that may be absent or null, and is written only if it has content. -/
def optional {α : Type} (key : String) (codec : Codec α) : Member (Option α) where
  key := key
  read
    | .null => .ok none
    | source => (codec.read source).map some
  absent := some none
  write content := content.map codec.write

end Member

namespace Codec

def text : Codec String where
  read
    | .text (some content) => .ok content
    | source => source.refuse "a string"
  write := .text

def flag : Codec Bool where
  read
    | .flag value => .ok value
    | source => source.refuse "a boolean"
  write := .flag

def int32 : Codec Int32 where
  read
    | .number (.integer value) =>
      if Int32.minValue.toInt ≤ value ∧ value ≤ Int32.maxValue.toInt then .ok (Int32.ofInt value)
      else .error (.mismatch (.wrongInteger value "i32"))
    | source => source.refuse "i32"
  write value := .integer value.toInt

/-- The items in order. An item is wanted before the end of the array is looked at. -/
def list {α : Type} (item : Codec α) : Codec (List α) where
  read
    | .array items stop => do
      let contents ← items.mapM item.read
      closing stop
      return contents
    | source => source.refuse "a sequence"
  write contents := .array (contents.map item.write)

def mapped {α β : Type} (codec : Codec α) (make : α → β) (view : β → α) : Codec β where
  read source := (codec.read source).map make
  write content := codec.write (view content)

def readVariant {α : Type} (variants : List (String × α)) : Key → Except Problem α
  | .named name =>
    match variants.lookup name with
    | some variant => .ok variant
    | none => .error (.mismatch (.unknownVariant name (variants.map (·.1))))
  | .unreadable => .error .malformed
  | .missing fault => .error fault.strict.problem

def readNothing : Source → Except Problem Unit
  | .null => .ok ()
  | source => source.refuse "unit"

/-- A choice is spelled by the name of a variant, or by an object with that name for its only
key and null for its value. No other value can begin a choice. -/
def choice {α : Type} (variants : List (String × α)) (name : α → String) : Codec α where
  read
    | .text content => readVariant variants (.ofText content)
    | .object ((key, value) :: others) stop => do
      let variant ← readVariant variants key
      readNothing value
      unless others.isEmpty do throw .malformed
      closing stop
      return variant
    | .object [] (some fault) => .error fault.strict.problem
    | .keyless standing => standing.refuse "variant identifier"
    | .broken fault => .error fault.strict.problem
    | _ => .error .malformed
  write content := .text (name content)

end Codec

def readMembers {types : List Type} (fields : Fields (Field Source) types)
    (stop : Option Fault) : List (Key × Source) → Slots types → Except Problem (Row types)
  | [], slots => do
    closing stop
    fields.finish slots
  | (.unreadable, _) :: _, _ => .error .malformed
  | (.missing fault, _) :: _, _ => .error fault.strict.problem
  | (.named key, value) :: members, slots =>
    match fields.place key value slots with
    | some placed => placed.bind (readMembers fields stop members)
    | none =>
      match value.skip? with
      | some cause => .error cause.problem
      | none => readMembers fields stop members slots

/-- The items of an array given to the fields of a record; `taken` items came before. More
items than fields are an error of form. -/
def readItems (wanted : String) (stop : Option Fault) :
    {types : List Type} → Fields (Field Source) types → Nat → List Source →
      Except Problem (Row types)
  | _, .nil, _, [] => closing stop
  | _, .nil, _, _ :: _ => .error .malformed
  | _, fields@(.cons _ _), taken, [] => do
    closing stop
    match fields.default? with
    | some row => return row
    | none => throw (.mismatch (.wrongLength taken wanted))
  | _, .cons field rest, taken, item :: items => do
    let content ← field.read item
    let row ← readItems wanted stop rest (taken + 1) items
    return (content, row)

def writeMembers : {types : List Type} → Fields Member types → Row types → List (String × Value)
  | _, .nil, _ => []
  | _, .cons member rest, (content, row) =>
    ((member.write content).map (member.key, ·)).toList ++ writeMembers rest row

/-- A record type: the name that messages give it, its fields in declaration order, and how
it is made of their contents. -/
structure Shape (R : Type) where
  name : String
  {types : List Type}
  members : Fields Member types
  make : Row types → R
  view : R → Row types
  make_view : ∀ record, make (view record) = record := by intro record; rfl
  view_make : ∀ row, view (make row) = row := by intro row; rfl

namespace Shape

variable {R : Type}

def described (shape : Shape R) : String := "struct " ++ shape.name

def codec (shape : Shape R) : Codec R where
  read
    | .object members stop =>
      (readMembers (shape.members.map (·.toField)) stop members (Fields.vacant _)).map shape.make
    | .array items stop =>
      (readItems (shape.described ++ " with " ++ Record.elements shape.members.count) stop
        (shape.members.map (·.toField)) 0 items).map shape.make
    | .keyless _ => .error .malformed
    | source => source.refuse shape.described
  write record := .object (writeMembers shape.members (shape.view record))

end Shape

/-- Reads a whole text. Nothing but space may follow the value. -/
def Codec.readText {α : Type} (codec : Codec α) (text : List Text.Symbol) :
    Except Problem α := do
  let document := Json.read text
  let content ← codec.read document.value
  if document.trailing then throw .malformed
  return content

def Codec.print {α : Type} (codec : Codec α) (content : α) : String :=
  (codec.write content).compact

end DeviceMatrix.Json
