import Mathlib.Data.List.Forall2
import DeviceMatrix.Proofs.Text.Padding
import DeviceMatrix.Report.Table

/-! The table is aligned. A column is as wide as the widest text that stands in it, the header
included, and no cell is cut: each is filled up with blanks, so that the columns stand below each
other on a terminal whatever characters the cells are made of. Colour is put around the labels
and leaves the rest of the table as it is. -/
namespace DeviceMatrix.Report.Table

open Text

inductive Column where
  | label
  | axisValue
  | details
  deriving DecidableEq, Repr

namespace Column

def title : Column → String
  | label => "OUTCOME"
  | axisValue => "TEST_AXIS_VALUE"
  | details => "TEST_DETAILS"

/-- What a row says in a column. -/
def textOf (row : TestOutcome) : Column → String
  | label => row.label.name
  | axisValue => row.axisValue
  | details => row.details

end Column

namespace Cells

variable {α β γ : Type}

def get (cells : Cells α) : Column → α
  | .label => cells.label
  | .axisValue => cells.axisValue
  | .details => cells.details

@[simp]
theorem get_map (f : α → β) (cells : Cells α) (column : Column) :
    (cells.map f).get column = f (cells.get column) := by
  cases column <;> rfl

@[simp]
theorem get_zip (f : α → β → γ) (a : Cells α) (b : Cells β) (column : Column) :
    (a.zip f b).get column = f (a.get column) (b.get column) := by
  cases column <;> rfl

theorem intercalate_toList (separator : String) (cells : Cells String) :
    separator.intercalate cells.toList =
      cells.label ++ separator ++ cells.axisValue ++ separator ++ cells.details := rfl

end Cells

theorem get_headers (column : Column) : headers.get column = column.title := by cases column <;> rfl

theorem get_cells (row : TestOutcome) (column : Column) :
    (cells row).get column = column.textOf row := by
  cases column <;> rfl

variable {rows : List TestOutcome}

/-- All that stands in a column: the header, and the cells below it. -/
def texts (rows : List TestOutcome) (column : Column) : List String :=
  column.title :: rows.map (column.textOf ·)

/-- The running maximum over the rows is one maximum for each column. -/
theorem get_widths (rows : List TestOutcome) (column : Column) :
    (widths rows).get column =
      rows.foldl (fun columns row => max columns (width (column.textOf row)))
        (width column.title) := by
  have start : width column.title = (headers.map width).get column := by
    rw [headers.get_map, get_headers]
  rw [start, widths]
  refine (List.foldl_hom (fun columns : Cells Nat => columns.get column) fun columns row => ?_).symm
  rw [Cells.get_zip, Cells.get_map, get_cells]

theorem max?_texts (rows : List TestOutcome) (column : Column) :
    ((texts rows column).map width).max? = some ((widths rows).get column) := by
  rw [get_widths, texts, List.map_cons, List.map_map, List.max?_cons', List.foldl_map]
  rfl

theorem width_le_of_mem_texts {column : Column} {text : String}
    (member : text ∈ texts rows column) : width text ≤ (widths rows).get column :=
  (List.max?_eq_some_iff.1 (max?_texts rows column)).2 _ (List.mem_map_of_mem member)

/-- A text as it stands in a column: in full, and with blanks behind it up to the width. -/
structure Filled (columns : Nat) (text shown : String) : Prop where
  spelled : shown = text ++ String.ofList (List.replicate (columns - width text) ' ')
  fits : width text ≤ columns
  measures : width shown = columns

theorem filled_padded {column : Column} {text : String} (member : text ∈ texts rows column) :
    Filled ((widths rows).get column) text (padded ((widths rows).get column) text) where
  spelled := rfl
  fits := width_le_of_mem_texts member
  measures := width_padded (width_le_of_mem_texts member)

/-- What a table for some rows is made of: the widths of its columns, and what stands in them. -/
structure Aligned (rows : List TestOutcome) (columns : Cells Nat) (head : Cells String)
    (body : List (Cells String)) : Prop where
  widest (column : Column) : ((texts rows column).map width).max? = some (columns.get column)
  header (column : Column) : Filled (columns.get column) column.title (head.get column)
  /-- One for each row, and in the same order. -/
  body : List.Forall₂ (fun row shown => ∀ column : Column,
    Filled (columns.get column) (column.textOf row) (shown.get column)) rows body

theorem aligned (rows : List TestOutcome) :
    Aligned rows (widths rows) ((widths rows).zip padded headers)
      (rows.map fun row => (widths rows).zip padded (cells row)) where
  widest := max?_texts rows
  header column := by
    rw [Cells.get_zip, get_headers]
    exact filled_padded List.mem_cons_self
  body := by
    refine List.forall₂_map_right_iff.2 (List.forall₂_same.2 fun row member column => ?_)
    rw [Cells.get_zip, get_cells]
    exact filled_padded (List.mem_cons_of_mem _ (List.mem_map.2 ⟨row, member, rfl⟩))

theorem eq_padded_of_filled {columns : Cells Nat} {text : Column → String} {shown : Cells String}
    (filled : ∀ column, Filled (columns.get column) (text column) (shown.get column)) :
    shown = columns.zip padded ⟨text .label, text .axisValue, text .details⟩ := by
  obtain ⟨label, axisValue, details⟩ := shown
  obtain rfl : label = _ := (filled .label).spelled
  obtain rfl : axisValue = _ := (filled .axisValue).spelled
  obtain rfl : details = _ := (filled .details).spelled
  rfl

/-! What is drawn around the cells. -/

def dashed (left middle right : String) (columns : Cells Nat) : String :=
  let dashes (columns : Nat) := String.ofList (List.replicate (columns + 2) '─')
  left ++ dashes columns.label ++ middle ++ dashes columns.axisValue ++ middle ++
    dashes columns.details ++ right ++ "\n"

/-- What colour puts before and behind a label. -/
def marks : Label → String × String
  | .failed => ("\x1b[31m", "\x1b[0m")
  | .passed => ("\x1b[32m", "\x1b[0m")
  | .inconclusive => ("\x1b[33m", "\x1b[0m")
  | .skipped | .unknown => ("", "")

def unmarked : String × String := ("", "")

/-- A row with marks around its label. -/
def drawn (around : String × String) (shown : Cells String) : String :=
  "│ " ++ (around.1 ++ shown.label ++ around.2) ++ " │ " ++ shown.axisValue ++ " │ " ++
    shown.details ++ " │\n"

/-- The rows, drawn already, below a header and between the rules. -/
def framed (columns : Cells Nat) (head : Cells String) (body : List String) : String :=
  dashed "┌" "┬" "┐" columns ++ drawn unmarked head ++ dashed "├" "┼" "┤" columns ++
    String.join body ++ dashed "└" "┴" "┘" columns

theorem rule_eq_dashed (left middle right : String) (columns : Cells Nat) :
    rule left middle right columns = dashed left middle right columns := by
  simp only [rule, dashed, Cells.intercalate_toList, Cells.map, String.append_assoc]

theorem line_eq_drawn (shown : Cells String) : line shown = drawn unmarked shown := by
  simp only [line, drawn, unmarked, Cells.intercalate_toList, String.empty_append,
    String.append_empty, String.append_assoc]

theorem coloured_eq (label : Label) (text : String) :
    coloured label text = (marks label).1 ++ text ++ (marks label).2 := by
  cases label with
  | failed | passed | inconclusive => rfl
  | skipped | unknown => rw [marks, String.empty_append, String.append_empty]; rfl

theorem bodyLine_eq_drawn (color : Bool) (columns : Cells Nat) (row : TestOutcome) :
    bodyLine color columns row =
      drawn (if color then marks row.label else unmarked) (columns.zip padded (cells row)) := by
  cases color with
  | false => exact line_eq_drawn _
  | true =>
    simp only [bodyLine, if_true, line_eq_drawn, coloured_eq]
    simp only [drawn, unmarked, String.empty_append, String.append_empty]

theorem render_eq_framed (some : rows ≠ []) (color : Bool) :
    render rows color = framed (widths rows) ((widths rows).zip padded headers)
      (rows.map fun row =>
        drawn (if color then marks row.label else unmarked)
          ((widths rows).zip padded (cells row))) := by
  have filled : rows.isEmpty = false := List.isEmpty_eq_false_iff.2 some
  have body := funext (bodyLine_eq_drawn color (widths rows))
  simp only [render, filled, Bool.false_eq_true, if_false, rule_eq_dashed, line_eq_drawn, body,
    framed]

/-- A table with rows is aligned. With colour the same cells stand in the same frame, and only
the marks around the labels are added. -/
theorem render_aligned (some : rows ≠ []) :
    ∃ columns head body, Aligned rows columns head body ∧
      render rows false = framed columns head (body.map (drawn unmarked)) ∧
      render rows true =
        framed columns head (List.zipWith (fun row => drawn (marks row.label)) rows body) := by
  refine ⟨_, _, _, aligned rows, ?_, ?_⟩
  · rw [render_eq_framed some, List.map_map]
    rfl
  · rw [render_eq_framed some, List.zipWith_map_right, List.zipWith_self]
    rfl

/-- Characters of two columns and of none, and a control sequence. -/
def wideRows : List TestOutcome :=
  [⟨.passed, "漢字漢字漢字漢字漢", "e\u0301"⟩, ⟨.unknown, "--", "\x1b[1mbold\x1b[0m"⟩]

def wideHead : Cells String := ⟨"OUTCOME", "TEST_AXIS_VALUE   ", "TEST_DETAILS"⟩

def wideCells : Cells String := ⟨"Passed ", "漢字漢字漢字漢字漢", "e\u0301           "⟩

def boldCells : Cells String := ⟨"Unknown", "--                ", "\x1b[1mbold\x1b[0m        "⟩

theorem render_of_wideRows :
    Aligned wideRows ⟨7, 18, 12⟩ wideHead [wideCells, boldCells] ∧
      render wideRows false =
        framed ⟨7, 18, 12⟩ wideHead [drawn unmarked wideCells, drawn unmarked boldCells] ∧
      render wideRows true = framed ⟨7, 18, 12⟩ wideHead
        [drawn ("\x1b[32m", "\x1b[0m") wideCells, drawn unmarked boldCells] := by
  have filled : wideRows ≠ [] := List.cons_ne_nil _ _
  obtain ⟨⟨label, axisValue, details⟩, head, body, aligned, drawn⟩ := render_aligned filled
  have first : label = 7 :=
    Option.some.inj ((aligned.widest .label).symm.trans (by decide +kernel))
  have second : axisValue = 18 :=
    Option.some.inj ((aligned.widest .axisValue).symm.trans (by decide +kernel))
  have third : details = 12 :=
    Option.some.inj ((aligned.widest .details).symm.trans (by decide +kernel))
  subst first second third
  have head_eq : head = wideHead := (eq_padded_of_filled aligned.header).trans (by decide +kernel)
  obtain ⟨passed, _, wide, others, rfl⟩ := List.forall₂_cons_left_iff.1 aligned.body
  obtain ⟨unknown, _, bold, none, rfl⟩ := List.forall₂_cons_left_iff.1 others
  obtain rfl := List.forall₂_nil_left_iff.1 none
  have wide_eq : passed = wideCells := (eq_padded_of_filled wide).trans (by decide +kernel)
  have bold_eq : unknown = boldCells := (eq_padded_of_filled bold).trans (by decide +kernel)
  subst head_eq wide_eq bold_eq
  exact ⟨aligned, drawn⟩

end DeviceMatrix.Report.Table
