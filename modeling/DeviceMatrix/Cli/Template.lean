/-! The configuration files that a new user starts from. -/
namespace DeviceMatrix.Cli

def helperSection : String :=
  "[source]
type = \"command\"
# Helper invoked as: <command> list-steps|get-execution --project P --history H --execution E ...
command = \"./scripts/results.sh\"
timeout_secs = 60"

def fixtureSection : String :=
  "[source]
type = \"fixture\"
# JSON recording: \x7b\"execution\": \x7b...\x7d, \"steps\": [...]\x7d
path = \"recording.json\""

def sourceSection? (source : String) : Option String :=
  match source with
  | "command" => some helperSection
  | "fixture" => some fixtureSection
  | _ => none

def template (source : String) : String :=
  "# matrix-summary configuration file

[execution]
project = \"my-project\"
history_id = \"bh.0000000000000000\"
execution_id = \"0000000000000000000\"

[fetch]
page_size = 100

" ++ source ++ "

[report]
format = \"table\"
testsuite_name = \"matrix\"
"

end DeviceMatrix.Cli
