import DeviceMatrix.Proofs.Report.Markup

/-! A JUnit document read back. The reader looks at the tree of the document only, and it finds
every row with its label and its texts. -/
namespace DeviceMatrix.Report.Junit

open Markup (Node Tag Token)

/-- The elements among the nodes, each with what stands in it. -/
def elements (nodes : List Node) : List (Tag × List Node) :=
  nodes.filterMap fun
    | .text _ => none
    | .element tag content => some (tag, content)

/-- The texts among the nodes, as one. -/
def textOf (nodes : List Node) : String :=
  String.join <| nodes.filterMap fun
    | .text content => some content
    | .element _ _ => none

/-- The one element among the nodes, if that is its name. -/
def only? (name : String) (nodes : List Node) : Option (Tag × List Node) :=
  match elements nodes with
  | [element] => if element.1.name = name then some element else none
  | _ => none

def attribute? (tag : Tag) (key : String) : Option String := tag.attributes.lookup key

/-- The labels that an element with a type may stand for. -/
def typed (name : String) : List Label :=
  if name = "failure" then [.failed] else if name = "error" then [.inconclusive, .unknown] else []

/-- The label and the details that an element in a test case stands for. -/
def verdict? (tag : Tag) (content : List Node) : Option (Label × String) :=
  if tag.name = "system-out" then some (.passed, textOf content)
  else do
    let details ← attribute? tag "message"
    if tag.name = "skipped" then return (.skipped, details)
    let type ← attribute? tag "type"
    let label ← (typed tag.name).find? (·.name = type)
    return (label, details)

/-- A test case as it is read. -/
structure Case where
  classname : String
  name : String
  label : Label
  details : String
  deriving DecidableEq, Repr

def case? (element : Tag × List Node) : Option Case :=
  if element.1.name = "testcase" then
    match elements element.2 with
    | [(tag, content)] => do
      let classname ← attribute? element.1 "classname"
      let name ← attribute? element.1 "name"
      let (label, details) ← verdict? tag content
      return ⟨classname, name, label, details⟩
    | _ => none
  else none

/-- A document as it is read. -/
structure Suite where
  name : String
  cases : List Case
  deriving DecidableEq, Repr

def read? (text : String) : Option Suite := do
  let nodes ← Markup.read? text
  let (_, suites) ← only? "testsuites" nodes
  let (suite, cases) ← only? "testsuite" suites
  let name ← attribute? suite "name"
  let cases ← (elements cases).mapM case?
  return ⟨name, cases⟩

/-! The tree of a document. -/

theorem elements_append (before behind : List Node) :
    elements (before ++ behind) = elements before ++ elements behind := by
  simp [elements]

theorem elements_allNodes (depth : Nat) (content : List Element) :
    elements (Element.allNodes depth content) =
      content.map fun element => (element.tag, element.inner depth) := by
  induction content with
  | nil => rfl
  | cons element content ih =>
    rw [List.map_cons, ← ih]
    rfl

def names : List String :=
  ["testsuites", "testsuite", "testcase", "system-out", "failure", "error", "skipped", "tests",
    "failures", "errors", "classname", "name", "message", "type"]

theorem plain_of_mem : ∀ name ∈ names, Markup.Plain name := by decide +kernel

theorem plainKeys_of_subset {attributes : List (String × String)}
    (known : attributes.map Prod.fst ⊆ names) : Markup.PlainKeys attributes :=
  fun key member => plain_of_mem key (known member)

theorem named_verdict (row : TestOutcome) : (verdict row).Named := by
  have typed (details type : String) :
      Markup.PlainKeys [("message", details), ("type", type)] :=
    plainKeys_of_subset (by simp [names])
  have untyped (details : String) : Markup.PlainKeys [("message", details)] :=
    plainKeys_of_subset (by simp [names])
  unfold verdict
  split
  · exact plain_of_mem "system-out" (by simp [names])
  · exact ⟨plain_of_mem "failure" (by simp [names]), typed _ _⟩
  · exact ⟨plain_of_mem "error" (by simp [names]), typed _ _⟩
  · exact ⟨plain_of_mem "error" (by simp [names]), typed _ _⟩
  · exact ⟨plain_of_mem "skipped" (by simp [names]), untyped _⟩

theorem named_document (rows : List TestOutcome) (suite : String) :
    (document rows suite).Named := by
  have cases : Element.AllNamed (rows.map (testCase suite)) := by
    rw [Element.allNamed_iff]
    intro element member
    obtain ⟨row, -, rfl⟩ := List.mem_map.1 member
    exact ⟨⟨plain_of_mem "testcase" (by simp [names]), plainKeys_of_subset (by simp [names])⟩,
      named_verdict row, trivial⟩
  have suite : Markup.Plain "testsuite" ∧ Markup.PlainKeys (("name", suite) :: totals rows) :=
    ⟨plain_of_mem _ (by simp [names]), plainKeys_of_subset (by simp [names, totals])⟩
  exact ⟨⟨plain_of_mem _ (by simp [names]), plainKeys_of_subset (by simp [names, totals])⟩,
    ⟨suite, cases⟩, trivial⟩

theorem tokens_render (rows : List TestOutcome) (suite : String) :
    Markup.tokens? (render rows suite).toList =
      some (.text "" :: (document rows suite).tokens 0 ++ [.text "\n"]) := by
  have declared : declaration.toList.foldl Markup.Scan.step {} = ⟨[.text ""], .text []⟩ := by
    decide +kernel
  have ended (tokens : List Token) : "\n".toList.foldl Markup.Scan.step ⟨tokens, .text []⟩ =
      ⟨tokens, .text ['\n']⟩ := rfl
  rw [Markup.tokens?, render, String.toList_append, String.toList_append, String.toList_ofList,
    List.foldl_append, List.foldl_append, declared,
    Markup.foldl_print 0 _ (named_document rows suite), ended]
  rfl

theorem nodes_render (rows : List TestOutcome) (suite : String) :
    Markup.read? (render rows suite) =
      some (.text "" :: (Element.allNodes 0 [document rows suite] ++ [.text "\n"])) := by
  rw [Markup.read?, tokens_render]
  simp [Markup.Tree.step, Markup.foldl_tokens, Markup.Tree.nodes?, Element.allNodes]

/-! What the reader finds in it. -/

theorem verdict?_verdict (row : TestOutcome) (depth : Nat) :
    verdict? (verdict row).tag ((verdict row).inner depth) = some (row.label, row.details) := by
  obtain ⟨label, axisValue, details⟩ := row
  cases label with
  | passed => simp [verdict, verdict?, Element.tag, Element.inner, textOf]
  | skipped => simp [verdict, verdict?, Element.tag, attribute?]
  | failed | inconclusive | unknown =>
    simp [verdict, verdict?, Element.tag, attribute?, typed, List.lookup_cons, Label.name]

/-- A row as its test case is read. -/
def caseOf (suite : String) (row : TestOutcome) : Case where
  classname := suite
  name := row.axisValue
  label := row.label
  details := row.details

theorem case?_testCase (suite : String) (row : TestOutcome) (depth : Nat) :
    case? ((testCase suite row).tag, (testCase suite row).inner depth) =
      some (caseOf suite row) := by
  have inner : elements ((testCase suite row).inner depth) =
      [((verdict row).tag, (verdict row).inner (depth + 1))] := by
    rw [testCase, Element.inner, elements_append, elements_allNodes]
    rfl
  have tag : (testCase suite row).tag =
      ⟨"testcase", [("classname", suite), ("name", row.axisValue)]⟩ := rfl
  simp [case?, inner, tag, attribute?, List.lookup_cons, verdict?_verdict, caseOf]

theorem elements_document (rows : List TestOutcome) (suite : String) (depth : Nat) :
    elements ((document rows suite).inner depth) =
      [(⟨"testsuite", ("name", suite) :: totals rows⟩,
        Element.allNodes (depth + 2) (rows.map (testCase suite)) ++
          [.text (Markup.lineBreak (depth + 1))])] := by
  rw [document, Element.inner, elements_append, elements_allNodes]
  rfl

theorem only?_of_elements {name : String} {nodes : List Node} {element : Tag × List Node}
    (single : elements nodes = [element]) (named : element.1.name = name) :
    only? name nodes = some element := by
  simp [only?, single, named]

theorem read?_render (rows : List TestOutcome) (suite : String) :
    read? (render rows suite) = some ⟨suite, rows.map (caseOf suite)⟩ := by
  have root : elements (.text "" :: (Element.allNodes 0 [document rows suite] ++ [.text "\n"])) =
      [((document rows suite).tag, (document rows suite).inner 0)] := by
    rfl
  have cases : (elements (Element.allNodes 2 (rows.map (testCase suite)) ++
      [.text (Markup.lineBreak 1)])).mapM case? = some (rows.map (caseOf suite)) := by
    have blank : elements [.text (Markup.lineBreak 1)] = [] := rfl
    have each : (case? ∘ fun element : Element => (element.tag, element.inner 2)) ∘
        testCase suite = fun row => pure (caseOf suite row) :=
      funext fun row => case?_testCase suite row 2
    rw [elements_append, elements_allNodes, blank, List.append_nil, List.mapM_map, List.mapM_map,
      each]
    exact List.mapM_pure
  have outer : only? "testsuites" _ = some _ := only?_of_elements root rfl
  have inner : only? "testsuite" _ = some _ :=
    only?_of_elements (elements_document rows suite 0) rfl
  simp only [read?, nodes_render, Option.bind_eq_bind, Option.bind_some, outer, inner, cases]
  rfl

/-- The rows that a document was made from. -/
def Suite.rows (suite : Suite) : List TestOutcome :=
  suite.cases.map fun read => ⟨read.label, read.name, read.details⟩

theorem rows_caseOf (rows : List TestOutcome) (suite : String) :
    Suite.rows ⟨suite, rows.map (caseOf suite)⟩ = rows := by
  simp [Suite.rows, caseOf, Function.comp_def]

/-- Reading a document gives back what it was made from, so that different summaries, and
summaries of different suites, have different documents. -/
theorem report_reads_back :
    (∀ (rows : List TestOutcome) (suite : String),
      read? (render rows suite) = some ⟨suite, rows.map fun row =>
        { classname := suite, name := row.axisValue, label := row.label,
          details := row.details }⟩) ∧
    Function.Injective fun report : List TestOutcome × String => render report.1 report.2 := by
  refine ⟨read?_render, ?_⟩
  rintro ⟨rows, suite⟩ ⟨others, other⟩ same
  have read : some (Suite.mk suite (rows.map (caseOf suite))) =
      some ⟨other, others.map (caseOf other)⟩ := by
    rw [← read?_render, ← read?_render]
    exact congrArg read? same
  have found := Option.some.inj read
  have names : suite = other := congrArg Suite.name found
  have made : rows = others := by
    rw [← rows_caseOf rows suite, found, rows_caseOf]
  rw [names, made]

end DeviceMatrix.Report.Junit
