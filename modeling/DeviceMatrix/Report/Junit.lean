import DeviceMatrix.Summary.TestOutcome

/-! The summary as a JUnit document, one test case for each row. A document is first built as
elements; writing it escapes the five characters that have a meaning in markup, in attributes
and in text. -/
namespace DeviceMatrix.Report

/-- An element with content in it has either text on the same line or elements below it. -/
inductive Element where
  | empty (name : String) (attributes : List (String × String))
  | text (name : String) (content : String)
  | parent (name : String) (attributes : List (String × String)) (children : List Element)

namespace Element

def escape (c : Char) : List Char :=
  match c with
  | '&' => ['&', 'a', 'm', 'p', ';']
  | '<' => ['&', 'l', 't', ';']
  | '>' => ['&', 'g', 't', ';']
  | '\x27' => ['&', 'a', 'p', 'o', 's', ';']
  | '"' => ['&', 'q', 'u', 'o', 't', ';']
  | c => [c]

def escaped (s : String) : List Char := s.toList.flatMap escape

def printAttributes (attributes : List (String × String)) : List Char :=
  attributes.flatMap fun (key, value) => ' ' :: key.toList ++ ['=', '"'] ++ escaped value ++ ['"']

def openTag (name : String) (attributes : List (String × String)) : List Char :=
  '<' :: name.toList ++ printAttributes attributes ++ ['>']

def closeTag (name : String) : List Char := ['<', '/'] ++ name.toList ++ ['>']

/-- Every tag that does not close a text starts a line of its own, by two blanks deeper than
the element around it. -/
def newLine (depth : Nat) : List Char := '\n' :: List.replicate (2 * depth) ' '

mutual

def print (depth : Nat) : Element → List Char
  | empty name attributes =>
    newLine depth ++ '<' :: name.toList ++ printAttributes attributes ++ ['/', '>']
  | text name content => newLine depth ++ openTag name [] ++ escaped content ++ closeTag name
  | parent name attributes children =>
    newLine depth ++ openTag name attributes ++ printAll (depth + 1) children ++
      newLine depth ++ closeTag name

def printAll (depth : Nat) : List Element → List Char
  | [] => []
  | element :: elements => print depth element ++ printAll depth elements

end

end Element

namespace Junit

/-- What a row is to a CI system. Passed rows show their details as output. -/
def verdict (row : TestOutcome) : Element :=
  let problem (name : String) (typed : Bool) : Element :=
    .empty name (("message", row.details) :: if typed then [("type", row.label.name)] else [])
  match row.label with
  | .passed => .text "system-out" row.details
  | .failed => problem "failure" true
  | .inconclusive | .unknown => problem "error" true
  | .skipped => problem "skipped" false

def testCase (suite : String) (row : TestOutcome) : Element :=
  .parent "testcase" [("classname", suite), ("name", row.axisValue)] [verdict row]

def count (labels : List Label) (rows : List TestOutcome) : String :=
  Decimal.ofNat (rows.countP (labels.contains ·.label))

def totals (rows : List TestOutcome) : List (String × String) :=
  [("tests", Decimal.ofNat rows.length), ("failures", count [.failed] rows),
    ("errors", count [.inconclusive, .unknown] rows), ("skipped", count [.skipped] rows)]

def document (rows : List TestOutcome) (suite : String) : Element :=
  .parent "testsuites" (totals rows)
    [.parent "testsuite" (("name", suite) :: totals rows) (rows.map (testCase suite))]

def declaration : String := "<?xml version=\"1.0\" encoding=\"UTF-8\"?>"

def render (rows : List TestOutcome) (suite : String) : String :=
  declaration ++ String.ofList ((document rows suite).print 0) ++ "\n"

end Junit
end DeviceMatrix.Report
