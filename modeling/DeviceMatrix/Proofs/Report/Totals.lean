import DeviceMatrix.Proofs.Report.ReadBack

/-! The tags of a JUnit document, counted. Escaped texts hold no sign that begins a tag, so the
tags of a document are those of its elements, and these are settled by the labels of the rows.
What the totals announce is what can be counted in the text. -/
namespace DeviceMatrix.Report

namespace Markup

/-- How often one text stands in another. -/
def occurrences (pattern : List Char) : List Char → Nat
  | [] => 0
  | c :: rest => (if pattern.isPrefixOf (c :: rest) then 1 else 0) + occurrences pattern rest

/-- The other name is that name, or a longer one. -/
def heads (name other : String) : Bool := name.toList.isPrefixOf other.toList

/-- How often a text has the start of a tag with that name. -/
def starts (name : String) (text : List Char) : Nat := occurrences ('<' :: name.toList) text

theorem starts_plain {chars : List Char} (plain : ∀ c ∈ chars, c ≠ '<') (name : String)
    (rest : List Char) : starts name (chars ++ rest) = starts name rest := by
  induction chars with
  | nil => rfl
  | cons c chars ih =>
    obtain ⟨first, others⟩ := List.forall_mem_cons.1 plain
    rw [← ih others]
    simp [starts, occurrences, List.isPrefixOf, Ne.symm first]

theorem starts_less (name : String) (rest : List Char) :
    starts name ('<' :: rest) =
      (if name.toList.isPrefixOf rest then 1 else 0) + starts name rest := by
  simp [starts, occurrences, List.isPrefixOf]

/-- A pattern that a character is not in cannot reach beyond it. -/
theorem isPrefixOf_append_cons {pattern : List Char} {c : Char} (outside : c ∉ pattern)
    (chars rest : List Char) :
    pattern.isPrefixOf (chars ++ c :: rest) = pattern.isPrefixOf chars := by
  induction pattern generalizing chars with
  | nil => simp [List.isPrefixOf]
  | cons first pattern ih =>
    obtain ⟨other, behind⟩ := not_or.1 (mt List.mem_cons.2 outside)
    cases chars with
    | nil => simp [List.isPrefixOf, Ne.symm other]
    | cons head chars => simp [List.isPrefixOf, ih behind]

theorem Plain.outside {name : String} (plain : Plain name) {c : Char} (mark : c ∈ marks) :
    c ∉ name.toList :=
  fun member => plain.not_mem_marks c member mark

theorem Plain.ne_less {name : String} (plain : Plain name) : ∀ c ∈ name.toList, c ≠ '<' :=
  fun c member => (not_mem_marks_iff.1 (plain.not_mem_marks c member)).1

theorem ne_less_of_mem_printAttributes {attributes : List (String × String)}
    (plain : PlainKeys attributes) : ∀ c ∈ Element.printAttributes attributes, c ≠ '<' := by
  intro c member
  obtain ⟨⟨key, value⟩, entry, spelled⟩ := List.mem_flatMap.1 member
  have named : ∀ c ∈ key.toList, c ≠ '<' := (plain key (List.mem_map_of_mem entry)).ne_less
  simp only [List.cons_append, List.append_assoc, List.mem_cons, List.mem_append,
    List.not_mem_nil, or_false, false_or] at spelled
  rcases spelled with rfl | within | rfl | rfl | within | rfl
  · decide
  · exact named c within
  · decide
  · decide
  · exact (ne_of_mem_escaped within).1
  · decide

/-- Of a tag only its name counts, and what its attributes are does not matter. -/
theorem starts_tag {name element : String} (plain : Plain name) (named : Plain element)
    {attributes : List (String × String)} (keys : PlainKeys attributes) {c : Char}
    (ending : c = '>' ∨ c = '/') (rest : List Char) :
    starts name ('<' :: (element.toList ++ (Element.printAttributes attributes ++ c :: rest))) =
      (if heads name element then 1 else 0) + starts name rest := by
  have mark : c ∈ marks := by rcases ending with rfl | rfl <;> decide
  have behind : ∃ mark ∈ marks, ∃ others,
      Element.printAttributes attributes ++ c :: rest = mark :: others := by
    cases attributes with
    | nil => exact ⟨c, mark, rest, rfl⟩
    | cons entry attributes => exact ⟨' ', by decide, _, rfl⟩
  have prefixed : name.toList.isPrefixOf
      (element.toList ++ (Element.printAttributes attributes ++ c :: rest)) =
        heads name element := by
    obtain ⟨mark, marked, others, shape⟩ := behind
    rw [shape, isPrefixOf_append_cons (plain.outside marked), heads]
  have last : ∀ c' ∈ [c], c' ≠ '<' := by
    rcases ending with rfl | rfl <;> exact List.forall_mem_ne'.2 (by decide)
  rw [starts_less, prefixed, starts_plain named.ne_less,
    starts_plain (ne_less_of_mem_printAttributes keys), ← List.singleton_append,
    starts_plain last]

theorem starts_closeTag {name element : String} (plain : Plain name) (named : Plain element)
    (rest : List Char) :
    starts name (Element.closeTag element ++ rest) = starts name rest := by
  obtain ⟨c, _, shape, first, -⟩ := plain.cons
  have apart : c ≠ '/' := (not_mem_marks_iff.1 first).2.2.1
  have spelled : Element.closeTag element ++ rest =
      '<' :: ('/' :: (element.toList ++ ('>' :: rest))) := by
    simp [Element.closeTag]
  have inside : ∀ c ∈ '/' :: (element.toList ++ ['>']), c ≠ '<' := by
    simp only [List.forall_mem_cons, List.forall_mem_append]
    exact ⟨by decide, named.ne_less, by decide, nofun⟩
  have body : '/' :: (element.toList ++ ('>' :: rest)) =
      ('/' :: (element.toList ++ ['>'])) ++ rest := by simp
  rw [spelled, starts_less, body, starts_plain inside, shape]
  simp [List.isPrefixOf, apart]

theorem starts_newLine (name : String) (depth : Nat) (rest : List Char) :
    starts name (Element.newLine depth ++ rest) = starts name rest := by
  refine starts_plain (fun c member => ?_) name rest
  rcases mem_newLine member with rfl | rfl <;> decide

end Markup

namespace Element

open Markup

mutual

def names : Element → List String
  | empty name _ => [name]
  | text name _ => [name]
  | parent name _ children => name :: allNames children

def allNames : List Element → List String
  | [] => []
  | element :: elements => element.names ++ allNames elements

end

end Element

namespace Markup

/-- How many of the names are that name, or longer. -/
def countNames (name : String) (names : List String) : Nat := names.countP (heads name)

theorem countNames_cons (name other : String) (names : List String) :
    countNames name (other :: names) =
      (if heads name other then 1 else 0) + countNames name names := by
  rw [countNames, List.countP_cons, Nat.add_comm, countNames]

theorem countNames_append (name : String) (names others : List String) :
    countNames name (names ++ others) = countNames name names + countNames name others :=
  List.countP_append

-- The cases are those of the printer, and what follows an element is counted as it is.
mutual

theorem starts_print {name : String} (plain : Plain name) (depth : Nat) :
    ∀ (element : Element), element.Named → ∀ rest : List Char,
    starts name (element.print depth ++ rest) = countNames name element.names + starts name rest
  | .empty element attributes, ⟨named, keys⟩, rest => by
    have shape : (Element.empty element attributes).print depth ++ rest = Element.newLine depth ++
        ('<' :: (element.toList ++
          (Element.printAttributes attributes ++ '/' :: (['>'] ++ rest)))) := by
      simp [Element.print]
    have last : ∀ c ∈ ['>'], c ≠ '<' := List.forall_mem_ne'.2 (by decide)
    rw [shape, starts_newLine, starts_tag plain named keys (.inr rfl), starts_plain last,
      Element.names, countNames_cons]
    rfl
  | .text element content, named, rest => by
    have shape : (Element.text element content).print depth ++ rest = Element.newLine depth ++
        ('<' :: (element.toList ++ (Element.printAttributes [] ++ '>' :: (Element.escaped content ++
          (Element.closeTag element ++ rest))))) := by
      simp [Element.print, Element.openTag]
    have escaped : ∀ c ∈ Element.escaped content, c ≠ '<' :=
      fun _ member => (ne_of_mem_escaped member).1
    rw [shape, starts_newLine, starts_tag plain named plainKeys_nil (.inl rfl),
      starts_plain escaped, starts_closeTag plain named, Element.names, countNames_cons]
    rfl
  | .parent element attributes children, ⟨⟨named, keys⟩, below⟩, rest => by
    have shape : (Element.parent element attributes children).print depth ++ rest =
        Element.newLine depth ++ ('<' :: (element.toList ++ (Element.printAttributes attributes ++
          '>' :: (Element.printAll (depth + 1) children ++
            (Element.newLine depth ++ (Element.closeTag element ++ rest)))))) := by
      simp [Element.print, Element.openTag]
    rw [shape, starts_newLine, starts_tag plain named keys (.inl rfl),
      starts_printAll plain (depth + 1) children below, starts_newLine,
      starts_closeTag plain named, Element.names, countNames_cons, Nat.add_assoc]

theorem starts_printAll {name : String} (plain : Plain name) (depth : Nat) :
    ∀ (elements : List Element), Element.AllNamed elements → ∀ rest : List Char,
    starts name (Element.printAll depth elements ++ rest) =
      countNames name (Element.allNames elements) + starts name rest
  | [], _, rest => by simp [Element.printAll, Element.allNames, countNames]
  | element :: elements, ⟨named, others⟩, rest => by
    rw [Element.printAll, List.append_assoc, starts_print plain depth element named,
      starts_printAll plain depth elements others, Element.allNames, countNames_append,
      Nat.add_assoc]

end

/-! The tags of a document without what was put into them. -/

/-- The attributes whose values are texts of a service or a user. -/
def filled : List String := ["classname", "name", "message"]

def Tag.bare (tag : Tag) : Tag :=
  { tag with attributes := tag.attributes.map fun (key, value) =>
      (key, if filled.contains key then "" else value) }

def Token.bare? : Token → Option Token
  | .text _ => none
  | .opening tag => some (.opening tag.bare)
  | .single tag => some (.single tag.bare)
  | .closing name => some (.closing name)

/-- All tags of a document in their order, with what was put into them left out. -/
def outline? (text : String) : Option (List Token) :=
  (tokens? text.toList).map (·.filterMap Token.bare?)

end Markup

namespace Junit

open Markup (Token heads starts outline?)

/-- The element that stands for a label. -/
def sign : Label → String
  | .passed => "system-out"
  | .failed => "failure"
  | .inconclusive | .unknown => "error"
  | .skipped => "skipped"

/-- The tags of a test case with that label. -/
def caseTags (label : Label) : List Token :=
  let verdict := match label with
    | .passed => [.opening ⟨sign label, []⟩, .closing (sign label)]
    | .skipped => [.single ⟨sign label, [("message", "")]⟩]
    | .failed | .inconclusive | .unknown =>
      [.single ⟨sign label, [("message", ""), ("type", label.name)]⟩]
  .opening ⟨"testcase", [("classname", ""), ("name", "")]⟩ :: verdict ++ [.closing "testcase"]

/-- The tags of a document with those totals and with test cases of those labels. -/
def outline (totals : List (String × String)) (labels : List Label) : List Token :=
  [.opening ⟨"testsuites", totals⟩, .opening ⟨"testsuite", ("name", "") :: totals⟩] ++
    labels.flatMap caseTags ++ [.closing "testsuite", .closing "testsuites"]

theorem tags_testCase (suite : String) (row : TestOutcome) (depth : Nat) :
    ((testCase suite row).tokens depth).filterMap Token.bare? = caseTags row.label := by
  obtain ⟨label, axisValue, details⟩ := row
  cases label <;> rfl

theorem outline?_render (rows : List TestOutcome) (suite : String) :
    outline? (render rows suite) = some (outline (totals rows) (rows.map (·.label))) := by
  have cases : (Element.allTokens 2 (rows.map (testCase suite))).filterMap Token.bare? =
      (rows.map (·.label)).flatMap caseTags := by
    induction rows with
    | nil => rfl
    | cons row rows ih =>
      rw [List.map_cons, Element.allTokens, List.filterMap_append, tags_testCase, ih]
      rfl
  rw [outline?, tokens_render]
  simp [document, Element.tokens, Element.allTokens, List.filterMap_cons, Token.bare?, cases,
    outline, totals, Markup.Tag.bare, Markup.filled]

theorem names_testCases (suite : String) (rows : List TestOutcome) :
    Element.allNames (rows.map (testCase suite)) =
      rows.flatMap fun row => ["testcase", sign row.label] := by
  induction rows with
  | nil => rfl
  | cons row rows ih =>
    obtain ⟨label, axisValue, details⟩ := row
    rw [List.map_cons, Element.allNames, ih]
    cases label <;> rfl

theorem countNames_pairs (name : String) (rows : List TestOutcome) :
    Markup.countNames name (rows.flatMap fun row => ["testcase", sign row.label]) =
      Markup.countNames name (rows.map fun _ => "testcase") +
        Markup.countNames name (rows.map (sign ·.label)) := by
  induction rows with
  | nil => rfl
  | cons row rows ih =>
    simp only [List.flatMap_cons, List.cons_append, List.nil_append, List.map_cons,
      Markup.countNames_cons, ih]
    omega

theorem starts_render {name : String} (plain : Markup.Plain name)
    (apart : Markup.countNames name ["testsuites", "testsuite"] = 0)
    (rows : List TestOutcome) (suite : String) :
    starts name (render rows suite).toList =
      Markup.countNames name (rows.map fun _ => "testcase") +
        Markup.countNames name (rows.map (sign ·.label)) := by
  have declared (rest : List Char) :
      starts name (declaration.toList ++ rest) = starts name rest := by
    obtain ⟨c, _, shape, first, -⟩ := plain.cons
    have other : c ≠ '?' := (Markup.not_mem_marks_iff.1 first).2.2.2.1
    have spelled : declaration.toList = '<' :: declaration.toList.tail := by decide
    have inside : ∀ c ∈ declaration.toList.tail, c ≠ '<' := List.forall_mem_ne'.2 (by decide)
    have asked : declaration.toList.tail.head? = some '?' := by decide
    obtain ⟨tail, question⟩ := List.head?_eq_some_iff.1 asked
    rw [spelled, List.cons_append, Markup.starts_less, Markup.starts_plain inside, question, shape]
    simp [List.isPrefixOf, other]
  have names : Markup.countNames name (document rows suite).names =
      Markup.countNames name (rows.flatMap fun row => ["testcase", sign row.label]) := by
    have inner : (document rows suite).names =
        ["testsuites", "testsuite"] ++ Element.allNames (rows.map (testCase suite)) := by
      simp [document, Element.names, Element.allNames]
    rw [inner, Markup.countNames_append, apart, Nat.zero_add, names_testCases]
  have line : ∀ c ∈ ['\n'], c ≠ '<' := List.forall_mem_ne'.2 (by decide)
  have ended : starts name "\n".toList = 0 := Markup.starts_plain line name []
  rw [render, String.toList_append, String.toList_append, String.toList_ofList,
    List.append_assoc, declared, Markup.starts_print plain 0 _ (named_document rows suite), ended,
    names, countNames_pairs, Nat.add_zero]

theorem starts_testcase (rows : List TestOutcome) (suite : String) :
    starts "testcase" (render rows suite).toList = rows.length := by
  have verdicts : ∀ label, heads "testcase" (sign label) = false := by
    intro label
    cases label <;> decide
  have same : heads "testcase" "testcase" = true := by decide
  have cases : Markup.countNames "testcase" (rows.map fun _ => "testcase") = rows.length := by
    rw [Markup.countNames, List.countP_map]
    exact List.countP_eq_length.2 fun _ _ => by simp [same]
  have others : Markup.countNames "testcase" (rows.map (sign ·.label)) = 0 := by
    rw [Markup.countNames, List.countP_map]
    exact List.countP_eq_zero.2 fun row _ => by simp [verdicts row.label]
  rw [starts_render (plain_of_mem _ (by simp [names])) (by decide), cases, others, Nat.add_zero]

theorem starts_sign {name : String} {labels : List Label} (known : name ∈ names)
    (apart : Markup.countNames name ["testsuites", "testsuite"] = 0)
    (other : heads name "testcase" = false)
    (meaning : ∀ label, heads name (sign label) = labels.contains label)
    (rows : List TestOutcome) (suite : String) :
    starts name (render rows suite).toList = rows.countP (labels.contains ·.label) := by
  rw [starts_render (plain_of_mem _ known) apart]
  simp [Markup.countNames, List.countP_map, Function.comp_def, meaning, other]

theorem length_eq_add_countP (rows : List TestOutcome) :
    rows.length = rows.countP ([Label.failed].contains ·.label) +
      rows.countP ([Label.inconclusive, .unknown].contains ·.label) +
        rows.countP ([Label.skipped].contains ·.label) +
          rows.countP ([Label.passed].contains ·.label) := by
  induction rows with
  | nil => rfl
  | cons row rows ih =>
    simp only [List.length_cons, List.countP_cons, ih]
    cases row.label <;> simp <;> omega

/-- The totals of a document, on both elements that have them, are what can be counted in its
text: the tags of test cases, of failures, of errors and of skips. Test cases without any of
these have an output. All tags follow from the labels, so that no text of a row and no name of a
suite adds, removes or changes one. -/
theorem totals_count_tags (rows : List TestOutcome) (suite : String) :
    let count (name : String) := starts name (render rows suite).toList
    let totals := [("tests", Decimal.ofNat (count "testcase")),
      ("failures", Decimal.ofNat (count "failure")), ("errors", Decimal.ofNat (count "error")),
      ("skipped", Decimal.ofNat (count "skipped"))]
    outline? (render rows suite) = some (outline totals (rows.map (·.label))) ∧
    count "testcase" =
      count "failure" + count "error" + count "skipped" + count "system-out" := by
  intro count
  have failures : count "failure" = rows.countP ([Label.failed].contains ·.label) :=
    starts_sign (by simp [names]) (by decide) (by decide)
      (fun label => by cases label <;> decide) rows suite
  have errors : count "error" = rows.countP ([Label.inconclusive, .unknown].contains ·.label) :=
    starts_sign (by simp [names]) (by decide) (by decide)
      (fun label => by cases label <;> decide) rows suite
  have skipped : count "skipped" = rows.countP ([Label.skipped].contains ·.label) :=
    starts_sign (by simp [names]) (by decide) (by decide)
      (fun label => by cases label <;> decide) rows suite
  have outputs : count "system-out" = rows.countP ([Label.passed].contains ·.label) :=
    starts_sign (by simp [names]) (by decide) (by decide)
      (fun label => by cases label <;> decide) rows suite
  have tests : count "testcase" = rows.length := starts_testcase rows suite
  rw [tests, failures, errors, skipped, outputs]
  exact ⟨outline?_render rows suite, length_eq_add_countP rows⟩

end Junit
end DeviceMatrix.Report
