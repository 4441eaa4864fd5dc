import DeviceMatrix.Summary.TestOutcome
import DeviceMatrix.Text.Control

/-! The summary as a table in a frame. Each column is as wide as its widest cell on a
terminal. Colour is put around a padded label and changes nothing else. -/
namespace DeviceMatrix.Report.Table

/-- Label, axis value and details of a row, or what stands in the three columns of it. -/
structure Cells (α : Type) where
  label : α
  axisValue : α
  details : α
  deriving DecidableEq, Repr

namespace Cells

variable {α β γ : Type}

def map (f : α → β) (cells : Cells α) : Cells β :=
  ⟨f cells.label, f cells.axisValue, f cells.details⟩

def zip (f : α → β → γ) (a : Cells α) (b : Cells β) : Cells γ :=
  ⟨f a.label b.label, f a.axisValue b.axisValue, f a.details b.details⟩

def toList (cells : Cells α) : List α := [cells.label, cells.axisValue, cells.details]

end Cells

def headers : Cells String := ⟨"OUTCOME", "TEST_AXIS_VALUE", "TEST_DETAILS"⟩

def cells (row : TestOutcome) : Cells String := ⟨row.label.name, row.axisValue, row.details⟩

def widths (rows : List TestOutcome) : Cells Nat :=
  rows.foldl (fun widths row => widths.zip max ((cells row).map Text.width))
    (headers.map Text.width)

def rule (left middle right : String) (widths : Cells Nat) : String :=
  let segment (width : Nat) := String.ofList (List.replicate (width + 2) '─')
  left ++ middle.intercalate (widths.map segment).toList ++ right ++ "\n"

def line (cells : Cells String) : String := "│ " ++ " │ ".intercalate cells.toList ++ " │\n"

def colour : Label → Option String
  | .failed => some "\x1b[31m"
  | .passed => some "\x1b[32m"
  | .inconclusive => some "\x1b[33m"
  | .skipped | .unknown => none

def colourOff : String := "\x1b[0m"

def coloured (label : Label) (text : String) : String :=
  match colour label with
  | some on => on ++ text ++ colourOff
  | none => text

def bodyLine (color : Bool) (widths : Cells Nat) (row : TestOutcome) : String :=
  let shown := widths.zip Text.padded (cells row)
  line (if color then { shown with label := coloured row.label shown.label } else shown)

/-- An empty summary has no table. -/
def render (rows : List TestOutcome) (color : Bool) : String :=
  if rows.isEmpty then ""
  else
    let widths := widths rows
    rule "┌" "┬" "┐" widths ++ line (widths.zip Text.padded headers) ++ rule "├" "┼" "┤" widths ++
      String.join (rows.map (bodyLine color widths)) ++ rule "└" "┴" "┘" widths

end DeviceMatrix.Report.Table
