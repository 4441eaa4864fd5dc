import DeviceMatrix.Cli.Options
import DeviceMatrix.Config.Basic

/-! What a command line asks for. -/
namespace DeviceMatrix.Cli

inductive Action where
  | summary (format : Option Report.Format) (output : Option String) (pageSize : Option PageSize)
    (execution : Option String)
  | rollup (execution : Option String)
  | validate
  | init (source : String)
  deriving DecidableEq, Repr

structure Arguments where
  config : String := "matrix-summary.toml"
  verbose : Bool := false
  action : Action
  deriving DecidableEq, Repr

def pageSize? (text : String) : Option PageSize :=
  match Decimal.word? text.toList with
  | some (size + 1) => some ⟨size + 1, Nat.succ_pos size⟩
  | _ => none

def isPath (text : String) : Bool := text != ""

def configOption : Spec := { long := "config", short := some 'c', accepts := some isPath }
def verboseOption : Spec := { long := "verbose", short := some 'v' }

def formatOption : Spec :=
  { long := "format", short := some 'f'
    accepts := some fun name => (Report.Format.ofName? name).isSome }

def outputOption : Spec := { long := "output", short := some 'o', accepts := some isPath }

def pageSizeOption : Spec :=
  { long := "page-size", accepts := some fun text => (pageSize? text).isSome }

def executionOption : Spec := { long := "execution-id", accepts := some fun _ => true }

def sourceOption : Spec :=
  { long := "source", short := some 's', accepts := some fun _ => true }

def value? (given : Given) (spec : Spec) : Option String := given.lookup spec.long

/-- The options of an action, behind which no word may be left. -/
def ending (specs : List Spec) (words : List String) : Except Stop Given := do
  match ← options specs false [] words with
  | (given, []) => return given
  | _ => throw .usage

/-- What help can be asked for. No action has actions of its own. -/
def helped : List String := ["summary", "rollup", "validate", "init", "help"]

def action : List String → Except Stop Action
  | "summary" :: words => do
    let given ← ending [formatOption, outputOption, pageSizeOption, executionOption] words
    return .summary ((value? given formatOption).bind Report.Format.ofName?)
      (value? given outputOption) ((value? given pageSizeOption).bind pageSize?)
      (value? given executionOption)
  | "rollup" :: words => do
    let given ← ending [executionOption] words
    return .rollup (value? given executionOption)
  | "validate" :: words => do
    discard (ending [] words)
    return .validate
  | "init" :: words => do
    let given ← ending [sourceOption] words
    return .init ((value? given sourceOption).getD "command")
  | ["help"] => .error .help
  | ["help", name] => .error (if helped.contains name then .help else .usage)
  | _ => .error .usage

def parse (words : List String) : Except Stop Arguments := do
  let (given, words) ← options [configOption, verboseOption] true [] words
  let action ← action words
  return { config := (value? given configOption).getD "matrix-summary.toml"
           verbose := (value? given verboseOption).isSome
           action }

end DeviceMatrix.Cli
