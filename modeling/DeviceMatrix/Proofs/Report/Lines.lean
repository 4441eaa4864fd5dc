import DeviceMatrix.Proofs.Report.Alignment
import DeviceMatrix.Proofs.Summary.Shown
import Mathlib.Algebra.Ring.Nat

/-! The lines of a table. A row is drawn as one line, but line feeds in its texts are drawn as they
are: each of them ends a line, and what stands between two of them is a line of its own, whatever
it says. Details have none, so that it depends on the axis values how many lines there are. -/
namespace DeviceMatrix

namespace Text

/-- So many lines, each with a line feed at its end. -/
inductive Lines : Nat → List Char → Prop where
  | none : Lines 0 []
  | line {n : Nat} {text rest : List Char} (whole : '\n' ∉ text) (others : Lines n rest) :
      Lines (n + 1) (text ++ '\n' :: rest)

/-- The line is one of those that a text is made of. -/
def HasLine (line : String) (text : List Char) : Prop :=
  ∃ n before behind, Lines n before ∧ '\n' ∉ line.toList ∧
    text = before ++ (line.toList ++ '\n' :: behind)

def breaks (text : String) : Nat := text.toList.count '\n'

@[simp]
theorem breaks_append (s t : String) : breaks (s ++ t) = breaks s + breaks t := by
  simp [breaks]

theorem breaks_eq_zero_iff {text : String} : breaks text = 0 ↔ '\n' ∉ text.toList :=
  List.count_eq_zero

theorem breaks_replicate {c : Char} (other : c ≠ '\n') (n : Nat) :
    breaks (String.ofList (List.replicate n c)) = 0 := by
  simp [breaks_eq_zero_iff, other.symm]

theorem breaks_padded (columns : Nat) (text : String) :
    breaks (padded columns text) = breaks text := by
  rw [padded, breaks_append, breaks_replicate (by decide), Nat.add_zero]

namespace Lines

variable {n k : Nat} {s t : List Char}

theorem append (first : Lines n s) (second : Lines k t) : Lines (n + k) (s ++ t) := by
  induction first with
  | none => simpa using second
  | line whole _ ih =>
    rw [List.append_assoc, List.cons_append, Nat.add_right_comm]
    exact .line whole ih

/-- A text has as many lines as it has line feeds. -/
theorem count_eq (lines : Lines n s) : s.count '\n' = n := by
  induction lines with
  | none => rfl
  | line whole _ ih => simp [List.count_eq_zero.2 whole, ih]

/-- A character in front belongs to the first line, unless it ends one. -/
theorem cons {c : Char} (other : c ≠ '\n') (lines : Lines (n + 1) s) : Lines (n + 1) (c :: s) := by
  cases lines with
  | @line _ text _ whole others =>
    exact @Lines.line _ (c :: text) _ (by simp [other.symm, whole]) others

theorem ended (s : List Char) : Lines (s.count '\n' + 1) (s ++ ['\n']) := by
  induction s with
  | nil => exact @Lines.line _ [] _ List.not_mem_nil .none
  | cons c s ih =>
    by_cases feed : c = '\n'
    · rw [feed, List.count_cons_self]
      exact @Lines.line _ [] _ List.not_mem_nil ih
    · rw [List.count_cons_of_ne feed]
      exact ih.cons feed

theorem flatten {α : Type} {text : α → List Char} {more : α → Nat} (items : List α)
    (each : ∀ item, Lines (more item + 1) (text item)) :
    Lines (items.length + (items.map more).sum) (items.map text).flatten := by
  induction items with
  | nil => exact .none
  | cons item items ih =>
    have lines := (each item).append ih
    simp only [List.map_cons, List.flatten_cons, List.length_cons, List.sum_cons]
    convert lines using 1
    omega

end Lines

theorem lines_ended {text : String} {n : Nat} (count : breaks text = n) :
    Lines (n + 1) (text ++ "\n").toList := by
  rw [String.toList_append, ← count]
  exact .ended text.toList

namespace HasLine

variable {n : Nat} {line : String} {text : List Char}

theorem append_left {before : List Char} (lines : Lines n before) (has : HasLine line text) :
    HasLine line (before ++ text) := by
  obtain ⟨k, first, behind, others, whole, rfl⟩ := has
  exact ⟨_, _, behind, lines.append others, whole, (List.append_assoc ..).symm⟩

theorem append_right (has : HasLine line text) (more : List Char) :
    HasLine line (text ++ more) := by
  obtain ⟨k, before, behind, lines, whole, rfl⟩ := has
  refine ⟨k, before, behind ++ more, lines, whole, ?_⟩
  rw [List.append_assoc, List.append_assoc, List.cons_append]

end HasLine

theorem hasLine_between (front back : String) {line : String} (whole : '\n' ∉ line.toList) :
    HasLine line (front ++ "\n" ++ line ++ "\n" ++ back).toList := by
  refine ⟨_, _, back.toList, lines_ended (rfl : breaks front = _), whole, ?_⟩
  simp

end Text

namespace Report.Table

open Text

variable {rows : List TestOutcome}

theorem lines_dashed (columns : Cells Nat) {left middle right : String}
    (plain : breaks left = 0 ∧ breaks middle = 0 ∧ breaks right = 0) :
    Lines 1 (dashed left middle right columns).toList := by
  obtain ⟨left, middle, right⟩ := plain
  refine lines_ended (n := 0) ?_
  simp only [breaks_append, left, middle, right, breaks_replicate (show '─' ≠ '\n' by decide)]

theorem lines_drawn (around : String × String) (shown : Cells String)
    (plain : breaks around.1 = 0 ∧ breaks around.2 = 0) :
    Lines (breaks shown.label + breaks shown.axisValue + breaks shown.details + 1)
      (drawn around shown).toList := by
  have shape : drawn around shown = "│ " ++ (around.1 ++ shown.label ++ around.2) ++ " │ " ++
      shown.axisValue ++ " │ " ++ shown.details ++ " │" ++ "\n" := by
    have ending : " │\n" = " │" ++ "\n" := by decide
    rw [drawn, ending, ← String.append_assoc]
  have front : breaks "│ " = 0 := by decide
  have between : breaks " │ " = 0 := by decide
  have last : breaks " │" = 0 := by decide
  rw [shape]
  refine lines_ended ?_
  simp only [breaks_append, plain, front, between, last]
  omega

theorem breaks_around (color : Bool) (label : Label) :
    let around := if color then marks label else unmarked
    breaks around.1 = 0 ∧ breaks around.2 = 0 := by
  cases color <;> cases label <;> decide

/-- A row as it stands in the table for some rows. -/
def rowText (rows : List TestOutcome) (color : Bool) (row : TestOutcome) : List Char :=
  (drawn (if color then marks row.label else unmarked)
    ((widths rows).zip padded (cells row))).toList

/-- A label has no line feeds, so that those of a row are in the other two cells. -/
theorem lines_rowText (rows : List TestOutcome) (color : Bool) (row : TestOutcome) :
    Lines (breaks row.axisValue + breaks row.details + 1) (rowText rows color row) := by
  have lines := lines_drawn _ ((widths rows).zip padded (cells row))
    (breaks_around color row.label)
  have label : breaks row.label.name = 0 := by cases row.label <;> decide
  rw [rowText]
  simpa [Cells.zip, cells, breaks_padded, label] using lines

def above (rows : List TestOutcome) : List Char :=
  (dashed "┌" "┬" "┐" (widths rows) ++ drawn unmarked ((widths rows).zip padded headers) ++
    dashed "├" "┼" "┤" (widths rows)).toList

def below (rows : List TestOutcome) : List Char := (dashed "└" "┴" "┘" (widths rows)).toList

theorem toList_render (some : rows ≠ []) (color : Bool) :
    (render rows color).toList =
      above rows ++ ((rows.map (rowText rows color)).flatten ++ below rows) := by
  simp [render_eq_framed some, framed, above, below, String.toList_join, List.flatMap,
    Function.comp_def]
  rfl

theorem lines_above (rows : List TestOutcome) : Lines 3 (above rows) := by
  have names : headers.map breaks = ⟨0, 0, 0⟩ := by decide
  obtain ⟨label, axisValue, details⟩ := Cells.mk.inj names
  have lines := lines_drawn unmarked ((widths rows).zip padded headers) (by decide)
  have shown : Lines 1 (drawn unmarked ((widths rows).zip padded headers)).toList := by
    simpa [Cells.zip, breaks_padded, label, axisValue, details] using lines
  rw [above, String.toList_append, String.toList_append]
  exact ((lines_dashed _ (by decide)).append shown).append (lines_dashed _ (by decide))

theorem lines_below (rows : List TestOutcome) : Lines 1 (below rows) :=
  lines_dashed _ (by decide)

theorem lines_rowTexts (rows some : List TestOutcome) (color : Bool) :
    Lines (some.length + (some.map fun row => breaks row.axisValue + breaks row.details).sum)
      (some.map (rowText rows color)).flatten :=
  .flatten some (lines_rowText rows color)

/-- A table has a line for each row, four around them, and one more for each line feed in a row. -/
theorem lines_render (some : rows ≠ []) (color : Bool) :
    Lines (rows.length + 4 + (rows.map fun row => breaks row.axisValue + breaks row.details).sum)
      (render rows color).toList := by
  have lines := (lines_above rows).append
    ((lines_rowTexts rows rows color).append (lines_below rows))
  rw [← toList_render some color] at lines
  convert lines using 1
  omega

theorem hasLine_rowText (rows : List TestOutcome) (color : Bool) {row : TestOutcome}
    {front line back : String} (axis : row.axisValue = front ++ "\n" ++ line ++ "\n" ++ back)
    (whole : '\n' ∉ line.toList) : HasLine line (rowText rows color row) := by
  let around := if color then marks row.label else unmarked
  let shown := (widths rows).zip padded (cells row)
  let behind := String.ofList (List.replicate ((widths rows).axisValue - width row.axisValue) ' ')
  have between := hasLine_between ("│ " ++ (around.1 ++ shown.label ++ around.2) ++ " │ " ++ front)
    (back ++ behind ++ " │ " ++ shown.details ++ " │\n") whole
  have filled : shown.axisValue = front ++ "\n" ++ line ++ "\n" ++ back ++ behind := by
    rw [← axis]
    rfl
  have text : rowText rows color row = ("│ " ++ (around.1 ++ shown.label ++ around.2) ++ " │ " ++
      front ++ "\n" ++ line ++ "\n" ++
      (back ++ behind ++ " │ " ++ shown.details ++ " │\n")).toList := by
    rw [rowText, drawn, filled]
    simp only [String.append_assoc]
    rfl
  rwa [text]

theorem hasLine_render {row : TestOutcome} (member : row ∈ rows) {front line back : String}
    (axis : row.axisValue = front ++ "\n" ++ line ++ "\n" ++ back) (whole : '\n' ∉ line.toList)
    (color : Bool) : HasLine line (render rows color).toList := by
  obtain ⟨ahead, behind, parted⟩ := List.append_of_mem member
  have text : (render rows color).toList = above rows ++
      ((ahead.map (rowText rows color)).flatten ++ (rowText rows color row ++
        ((behind.map (rowText rows color)).flatten ++ below rows))) := by
    rw [toList_render (List.ne_nil_of_mem member)]
    conv_lhs => enter [2, 1, 1, 2]; rw [parted]
    simp
  rw [text]
  exact .append_left (lines_above rows) (.append_left (lines_rowTexts rows ahead color)
    ((hasLine_rowText rows color axis whole).append_right _))

theorem breaks_details {steps : List Step} {row : TestOutcome}
    (member : row ∈ (summarize steps).value) : breaks row.details = 0 := by
  refine breaks_eq_zero_iff.2 fun feed => ?_
  have printable := legible_of_mem_summarize member '\n' feed
  exact absurd printable (by decide)

theorem exists_row_stepOn (model : String) :
    ∃ row ∈ (summarize [stepOn model]).value, row.axisValue = model ++ "-?-?-?" := by
  refine ⟨_, mem_summarize_iff.2 ⟨stepOn model, List.mem_singleton_self _, rfl⟩, ?_⟩
  show model ++ "-" ++ "?" ++ "-" ++ "?" ++ "-" ++ "?" = _
  simp only [String.append_assoc]
  rfl

/-- Between the three lines above the rows and the one below them, a row takes one line and another
for each line feed in its axis value. So there is exactly one line for each row if no step with an
outcome shows a text with a line feed, and only then; and any line can be put into a table by a list
of steps in JSON. -/
theorem summary_lines (steps : List Step) (color : Bool) (some : (summarize steps).value ≠ []) :
    let rows := (summarize steps).value
    let table := (render rows color).toList
    (∃ head body foot, table = head ++ (body.flatten ++ foot) ∧ Lines 3 head ∧
      List.Forall₂ (fun row text => Lines (breaks row.axisValue + 1) text) rows body ∧
      Lines 1 foot) ∧
    Lines (rows.length + 4 + (rows.map fun row => breaks row.axisValue).sum) table ∧
    (Lines (rows.length + 4) table ↔
      ∀ step ∈ steps, ∀ text, Shows step text → '\n' ∉ text.toList) ∧
    ∀ line : String, '\n' ∉ line.toList → ∃ json decoded,
      stepsCodec.readText (Symbol.ofString json) = .ok decoded ∧
      HasLine line (render (summarize decoded).value color).toList := by
  intro rows table
  have each : ∀ row ∈ rows, Lines (breaks row.axisValue + 1) (rowText rows color row) := by
    intro row member
    have lines := lines_rowText rows color row
    rwa [breaks_details member, Nat.add_zero] at lines
  have counted : Lines (rows.length + 4 + (rows.map fun row => breaks row.axisValue).sum)
      table := by
    have lines := lines_render some color
    rwa [List.map_congr_left fun row member => congrArg (_ + ·) (breaks_details member)] at lines
  refine ⟨⟨_, _, _, toList_render some color, lines_above rows, ?_, lines_below rows⟩, counted, ?_,
    ?_⟩
  · exact List.forall₂_map_right_iff.2 (List.forall₂_same.2 each)
  · have shown := mem_axisValues_iff (c := '\n') (by decide) (by decide) steps
    have unbroken : Lines (rows.length + 4) table ↔
        (rows.map fun row => breaks row.axisValue).sum = 0 := by
      constructor
      · intro fewer
        have counts := counted.count_eq.symm.trans fewer.count_eq
        omega
      · intro none
        rwa [none, Nat.add_zero] at counted
    rw [unbroken, List.sum_eq_zero_iff_forall_eq_nat]
    constructor
    · intro none step listed text shows feed
      obtain ⟨row, member, within⟩ := shown.2 ⟨step, listed, text, shows, feed⟩
      exact breaks_eq_zero_iff.1 (none _ (List.mem_map_of_mem member)) within
    · intro plain n feeds
      obtain ⟨row, member, rfl⟩ := List.mem_map.1 feeds
      refine breaks_eq_zero_iff.2 fun feed => ?_
      obtain ⟨step, listed, text, shows, feed⟩ := shown.1 ⟨row, member, feed⟩
      exact plain step listed text shows feed
  · intro line whole
    obtain ⟨row, member, axis⟩ := exists_row_stepOn ("" ++ "\n" ++ line ++ "\n")
    exact ⟨_, _, readText_stepOn _, hasLine_render member axis whole color⟩

/-- One step, whose model is spelled in two lines. -/
theorem split_model_takes_two_lines :
    (summarize [stepOn "Pixel\nXL"]).value ≠ [] ∧
    Lines 6 (render (summarize [stepOn "Pixel\nXL"]).value false).toList := by
  have some : (summarize [stepOn "Pixel\nXL"]).value ≠ [] := by decide +kernel
  have lines := (summary_lines [stepOn "Pixel\nXL"] false some).2.1
  have six : (summarize [stepOn "Pixel\nXL"]).value.length + 4 +
      ((summarize [stepOn "Pixel\nXL"]).value.map fun row => breaks row.axisValue).sum = 6 := by
    decide +kernel
  rw [six] at lines
  exact ⟨some, lines⟩

/-- The same from JSON: the table is not made of one line for the row and four around it. -/
theorem table_of_split_model_is_broken :
    stepsCodec.readText (Symbol.ofString
      "[\x7b\"outcome\": \x7b\x7d, \"dimensionValue\":
        [\x7b\"key\": \"Model\", \"value\": \"Pixel\\nXL\"\x7d]\x7d]") =
      .ok [stepOn "Pixel\nXL"] ∧
    let rows := (summarize [stepOn "Pixel\nXL"]).value
    rows.length = 1 ∧ ¬Lines (rows.length + 4) (render rows false).toList := by
  have some : (summarize [stepOn "Pixel\nXL"]).value ≠ [] := by decide +kernel
  refine ⟨by decide +kernel, by decide +kernel, fun fewer => ?_⟩
  have counts := (lines_render some false).count_eq.symm.trans fewer.count_eq
  exact absurd counts (by decide +kernel)

end Report.Table
end DeviceMatrix
