import DeviceMatrix.Config.Basic
import DeviceMatrix.Record.Fields
import DeviceMatrix.Toml.Value

/-! Configurations in TOML. Sections are read from tables, whose unknown entries are passed
over, or from arrays of their fields in order. Of the source the kind is looked for first, and
decides what the other entries must be. -/
namespace DeviceMatrix.Config

open Record (Field Fields Problem Row)
open Toml (Value)

def readText (wanted : String) : Value → Except Problem String
  | .text content => .ok content
  | value => value.refuse wanted

/-- A number of 64 bits from `least` on. -/
def readWord (least : Nat) (wanted : String) : Value → Except Problem { n : Nat // least ≤ n }
  | .integer value =>
    if h : least ≤ value.toNat ∧ 0 ≤ value then .ok ⟨value.toNat, h.1⟩
    else .error (.mismatch (.wrongInteger value wanted))
  | value => value.refuse wanted

/-- A format is named by a text, or by the only key of a table whose value is an empty table or
an empty array. -/
def readFormat : Value → Except Problem Report.Format
  | .text name => variant name
  | .table [] => .error (.mismatch (.notOneEntry true))
  | .table [(name, value)] => do
    let format ← variant name
    match value with
    | .table [] | .array [] | .tables [] => return format
    | .table _ | .array _ => throw (.mismatch .filledTable)
    | .tables _ => throw (.mismatch .filledArray)
    | value => throw (.mismatch (.notTable value.kind))
  | .table _ => .error (.mismatch (.notOneEntry false))
  | _ => .error (.mismatch .neitherTextNorTable)
where
  variant (name : String) : Except Problem Report.Format :=
    match Report.Format.ofName? name with
    | some format => .ok format
    | none => .error (.mismatch (.unknownVariant name (Report.Format.all.map (·.name))))

variable {types : List Type}

def fromEntries (fields : Fields (Field Value) types) :
    List (String × Value) → Record.Slots types → Except Problem (Row types)
  | [], slots => fields.finish slots
  | (key, value) :: entries, slots =>
    match fields.place key value slots with
    | some placed => placed.bind (fromEntries fields entries)
    | none => fromEntries fields entries slots

/-- The items of an array given to the fields of a section, after `taken` others. What is left
over is the second part of the answer. -/
def fromItems (wanted : String) : {types : List Type} → Fields (Field Value) types → Nat →
    List Value → Except Problem (Row types × List Value)
  | _, .nil, _, items => .ok ((), items)
  | _, fields@(.cons _ _), taken, [] =>
    match fields.default? with
    | some row => .ok (row, [])
    | none => .error (.mismatch (.wrongLength taken wanted))
  | _, .cons field rest, taken, item :: items => do
    let content ← field.read item
    let (row, left) ← fromItems wanted rest (taken + 1) items
    return ((content, row), left)

def lengthWanted (name : String) (fields : Fields (Field Value) types) : String :=
  "struct " ++ name ++ " with " ++ Record.elements fields.count

/-- A section. Items of an array that are left over do not matter. -/
def read (name : String) (fields : Fields (Field Value) types) : Value → Except Problem (Row types)
  | .table entries => fromEntries fields entries (Fields.vacant types)
  | .moment => fields.finish (Fields.vacant types)
  | value =>
    match value.items? with
    | some items => (fromItems (lengthWanted name fields) fields 0 items).map (·.1)
    | none => value.refuse ("struct " ++ name)

def required {α : Type} (key : String) (read : Value → Except Problem α) : Field Value α where
  key := key
  read := read
  absent := none

def defaulted {α : Type} (key : String) (read : Value → Except Problem α) (initial : α) :
    Field Value α where
  key := key
  read := read
  absent := some initial

def readString : Value → Except Problem String := readText "a string"
def readPath : Value → Except Problem String := readText "path string"

def handleFields : Fields (Field Value) [String, String, String] :=
  .cons (required "project" readString) <| .cons (required "history_id" readString) <|
    .cons (required "execution_id" readString) .nil

def readHandle (value : Value) : Except Problem ExecutionHandle :=
  (read "ExecutionConfig" handleFields value).map fun (project, history, execution, ()) =>
    ⟨project, history, execution⟩

def fetchFields : Fields (Field Value) [PageSize] :=
  .cons (defaulted "page_size" (readWord 1 "a nonzero usize") defaultPageSize) .nil

def readFetch (value : Value) : Except Problem PageSize :=
  (read "FetchConfig" fetchFields value).map (·.1)

def reportFields : Fields (Field Value) [Report.Format, String] :=
  .cons (defaulted "format" readFormat defaultFormat) <|
    .cons (defaulted "testsuite_name" readString defaultSuite) .nil

def readReport (value : Value) : Except Problem (Report.Format × String) :=
  (read "ReportConfig" reportFields value).map fun (format, suite, ()) => (format, suite)

/-- The directory of a helper may be left out of a table, but not out of an array. -/
def helperFields : Fields (Field Value) [String, Option String, { n : Nat // 0 ≤ n }] :=
  .cons (required "command" readString) <|
    .cons { key := "working_dir", read := fun value => (readPath value).map some
            absent := some none, beyond := none } <|
    .cons (defaulted "timeout_secs" (readWord 0 "u64") ⟨defaultTimeout, Nat.zero_le _⟩) .nil

def fixtureFields : Fields (Field Value) [String] := .cons (required "path" readPath) .nil

/-- A part of a tagged value: its entries, or its items, without the tag. -/
inductive Content where
  | entries (entries : List (String × Value))
  | items (items : List Value)

/-- What is left of a source beside its kind must be used up to the last item. -/
def readContent (name : String) (fields : Fields (Field Value) types) :
    Content → Except Problem (Row types)
  | .entries entries => fromEntries fields entries (Fields.vacant types)
  | .items items => do
    let (row, left) ← fromItems (lengthWanted name fields) fields 0 items
    unless left.isEmpty do
      throw (.mismatch (.wrongLength items.length (Record.elements fields.count ++ " in sequence")))
    return row

inductive Kind where
  | helper
  | fixture
  deriving DecidableEq, Repr

def kinds : List (String × Kind) := [("command", .helper), ("fixture", .fixture)]

def readKind : Value → Except Problem Kind
  | .text name =>
    match kinds.lookup name with
    | some kind => .ok kind
    | none => .error (.mismatch (.unknownVariant name (kinds.map (·.1))))
  | value => value.refuse "variant identifier"

def readKindOf (content : Content) : Kind → Except Problem SourceConfig
  | .helper => (readContent "CommandSourceConfig" helperFields content).map
      fun (command, directory, timeout, ()) => .helper ⟨command, directory, timeout⟩
  | .fixture => (readContent "FixtureSourceConfig" fixtureFields content).map
      fun (path, ()) => .fixture path

def missingKind : Problem := .mismatch (.missingField "type")

def readSource : Value → Except Problem SourceConfig
  | .table entries =>
    match entries.lookup "type" with
    | none => .error missingKind
    | some kind => (readKind kind).bind (readKindOf (.entries (entries.filter (·.1 ≠ "type"))))
  | .moment => .error missingKind
  | value =>
    match value.items? with
    | some [] => .error missingKind
    | some (kind :: items) => (readKind kind).bind (readKindOf (.items items))
    | none => value.refuse "internally tagged enum SourceConfig"

def fields :
    Fields (Field Value) [ExecutionHandle, PageSize, SourceConfig, Report.Format × String] :=
  .cons (required "execution" readHandle) <|
    .cons (defaulted "fetch" readFetch defaultPageSize) <|
    .cons (required "source" readSource) <|
    .cons (defaulted "report" readReport (defaultFormat, defaultSuite)) .nil

/-- The configuration that the entries of a document make. -/
def ofEntries (entries : List (String × Value)) : Except Problem Config :=
  (fromEntries fields entries (Fields.vacant _)).map
    fun (handle, pageSize, source, (format, suite), ()) => ⟨handle, pageSize, source, format, suite⟩

end DeviceMatrix.Config
