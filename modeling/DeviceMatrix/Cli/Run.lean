import DeviceMatrix.Cli.Arguments
import DeviceMatrix.Cli.Failure
import DeviceMatrix.Cli.Template
import DeviceMatrix.Report.Render

/-! Runs of the program on a host. A run gives the exit code, the text for standard output and
the lines for standard error; files change only where a run says so. Sources are opened through
a function, so that what is asked of them can be watched. -/
namespace DeviceMatrix.Cli

structure Printed where
  exit : Nat := 0
  output : String := ""
  errors : List String := []
  deriving DecidableEq, Repr

/-- A run with what it wrote to its outputs by their paths, which it tells of at its end. -/
def Printed.including (printed : Printed) (output errors : String) : Printed :=
  { printed with
    output := printed.output ++ output
    errors :=
      if errors = "" then printed.errors
      else
        let lines := errors.splitOn "\n"
        printed.errors.dropLast ++ (if errors.endsWith "\n" then lines.dropLast else lines) ++
          printed.errors.getLast?.toList }

structure Setting where
  color : Bool := false

abbrev Opened (m : Type → Type) := Logged (Except Failure (StepSource m))

abbrev Attempt (α : Type) := Logged (Except Failure α)

variable {m : Type → Type} [Monad m]

/-- Opens the source that a configuration names. -/
def openSource (host : Host m) (source : SourceConfig) : m (Opened m) :=
  match source with
  | .helper helper => pure ⟨.ok (helper.source host), []⟩
  | .fixture path => do
    let loaded ← Recording.load host path
    return loaded.map fun result => match result with
      | .ok source => .ok source
      | .error error =>
        .error ((Failure.ofService error).within ("Failed to load fixture " ++ path))

def prepare (host : Host m) (opener : SourceConfig → m (Opened m)) (config : String)
    (execution : Option String) : m (Attempt (Config × StepSource m)) := do
  match ← Config.load host config with
  | .error error =>
    return ⟨.error ((Failure.ofConfig error).within ("Failed to load config from " ++ config)), []⟩
  | .ok loaded =>
    let loaded := match execution with
      | some execution => { loaded with handle := { loaded.handle with execution } }
      | none => loaded
    let log : List Line := [⟨.info, "Loaded configuration from " ++ config⟩]
    let opened ← opener loaded.source
    match opened.value with
    | .error error => return ⟨.error error, log ++ opened.log⟩
    | .ok source =>
      let line := ⟨.info, "Using " ++ loaded.source.kind ++ " source: " ++ source.name⟩
      return ⟨.ok (loaded, source), log ++ opened.log ++ [line]⟩

/-- A report on standard output ends with a line end, unless it is empty. -/
def terminated (report : String) : String :=
  if report ≠ "" ∧ !report.endsWith "\n" then report ++ "\n" else report

def deliver (host : Host m) (output : Option String) (report : String) : m (Attempt String) :=
  match output with
  | none => pure ⟨.ok (terminated report), []⟩
  | some path => do
    let written ← Report.write host path report
    return written.map fun result => match result with
      | .ok () => .ok ""
      | .error error => .error (.ofWrite error)

def summary (setting : Setting) (host : Host m) (opener : SourceConfig → m (Opened m))
    (config : String) (format : Option Report.Format) (output : Option String)
    (pageSize : Option PageSize) (execution : Option String) : m (Attempt (Nat × String)) := do
  let prepared ← prepare host opener config execution
  match prepared.value with
  | .error error => return ⟨.error error, prepared.log⟩
  | .ok (config, source) =>
    let fetcher : Fetcher m :=
      { source, handle := config.handle, pageSize := (pageSize.getD config.pageSize).val }
    let fetched ← fetcher.summary
    match fetched.value with
    | .error error => return ⟨.error (.ofSummary error), prepared.log ++ fetched.log⟩
    | .ok rows =>
      let report := Report.render rows (format.getD config.format) config.suite
        (output.isNone && setting.color)
      let delivered ← deliver host output report
      return (delivered.map (·.map ((0, ·)))).after (prepared.log ++ fetched.log)

def rollup (host : Host m) (opener : SourceConfig → m (Opened m)) (config : String)
    (execution : Option String) : m (Attempt (Nat × String)) := do
  let prepared ← prepare host opener config execution
  match prepared.value with
  | .error error => return ⟨.error error, prepared.log⟩
  | .ok (config, source) =>
    let fetched ← ({ source, handle := config.handle } : Fetcher m).rollup
    return (fetched.map fun result => match result with
      | .error error => .error (.ofSummary error)
      | .ok outcome => .ok ((outcome.summary.map (·.exitCode)).getD 2, outcome.describe ++ "\n")
      ).after prepared.log

def describe (config : Config) : List String :=
  ["Configuration is valid!", "", "Settings:", "  Execution: " ++ config.handle.show,
    "  Page size: " ++ Decimal.ofNat config.pageSize.val] ++
  (match config.source with
    | .helper helper => ["  Source: command (" ++ helper.command ++ ")",
      "  Timeout: " ++ Decimal.ofNat helper.timeout ++ "s"]
    | .fixture path => ["  Source: fixture (" ++ path ++ ")"]) ++
  ["  Format: " ++ config.format.title]

def printedLines (lines : List String) : String := String.join (lines.map (· ++ "\n"))

def validate (host : Host m) (config : String) : m Printed := do
  match ← Config.load host config with
  | .ok loaded => return { output := printedLines (describe loaded) }
  | .error error =>
    return { exit := 1,
             errors := ("Configuration error: " ++ (Failure.ofConfig error).inline).splitOn "\n" }

/-- Writes a configuration to start from, unless there is something already. -/
def init (host : Host m) (config source : String) : m Printed := do
  match sourceSection? source with
  | none =>
    return { exit := 1, errors :=
      ("Unknown source: " ++ source ++ ". Use: command, fixture").splitOn "\n" }
  | some text =>
    if ← host.present config then
      return { exit := 1, errors :=
        (config ++ " already exists. Remove it first or edit manually.").splitOn "\n" }
    else match ← host.write config (Text.encode (template text)) with
      | .error error => return { exit := 1, errors := (Failure.mk error.message []).lines }
      | .ok () =>
        return { output := printedLines ["Created " ++ config, "",
          "Edit the configuration as needed, then run:", "  matrix-summary summary"] }

/-- The log up to an error, and the error. -/
def conclude (verbose : Bool) (attempt : Attempt (Nat × String)) : Printed :=
  let log := (attempt.log.filter (·.isShown verbose)).flatMap (·.printed.splitOn "\n")
  match attempt.value with
  | .ok (exit, output) => { exit, output, errors := log }
  | .error error => { exit := 1, errors := log ++ error.lines }

def perform (setting : Setting) (host : Host m) (opener : SourceConfig → m (Opened m))
    (arguments : Arguments) : m Printed :=
  match arguments.action with
  | .summary format output pageSize execution => do
    let attempt ←
      summary setting host opener arguments.config format output pageSize execution
    return conclude arguments.verbose attempt
  | .rollup execution => do
    let attempt ← rollup host opener arguments.config execution
    return conclude arguments.verbose attempt
  | .validate => validate host arguments.config
  | .init source => init host arguments.config source

def usage : List String :=
  ["Usage: matrix-summary [-c FILE] [-v] <COMMAND>",
    "Commands:",
    "  summary [-f table|json|junit] [-o FILE] [--page-size N] [--execution-id ID]",
    "  rollup [--execution-id ID]",
    "  validate",
    "  init [-s command|fixture]"]

def version : String := "matrix-summary 0.1.0"

def run (setting : Setting) (host : Host m) (words : List String) : m Printed :=
  match parse words with
  | .ok arguments => perform setting host (openSource host) arguments
  | .error .usage => pure { exit := 2, errors := usage }
  | .error .help => pure { output := printedLines usage }
  | .error .version => pure { output := printedLines [version] }

end DeviceMatrix.Cli
