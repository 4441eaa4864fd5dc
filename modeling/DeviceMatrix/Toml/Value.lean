import DeviceMatrix.Record.Problem

/-! The content of a TOML document. Entries stand in the order in which the document leaves
them. Of real numbers and of dates and times only the kind is kept. -/
namespace DeviceMatrix.Toml

open Record (Found Problem)

inductive Value where
  | text (content : String)
  | integer (value : Int)
  | real
  | flag (value : Bool)
  | moment
  | array (items : List Value)
  | table (entries : List (String × Value))
  /-- An array whose tables stand under headers of their own. -/
  | tables (tables : List (List (String × Value)))

namespace Value

def kind : Value → String
  | text _ => "string"
  | integer _ => "integer"
  | real => "float"
  | flag _ => "boolean"
  | moment => "datetime"
  | array _ => "array"
  | table _ => "table"
  | tables _ => "array of tables"

/-- A value as messages describe it. A date or time is described as a map. -/
def found : Value → Found
  | text content => .text content
  | integer value => .integer value
  | real => .real
  | flag value => .boolean value
  | moment => .map
  | array _ => .sequence
  | table _ => .map
  | tables _ => .sequence

def items? : Value → Option (List Value)
  | array items => some items
  | tables found => some (found.map table)
  | _ => none

def refuse {α : Type} (wanted : String) (value : Value) : Except Problem α :=
  .error (.mismatch (.wrongType value.found wanted))

end Value
end DeviceMatrix.Toml
