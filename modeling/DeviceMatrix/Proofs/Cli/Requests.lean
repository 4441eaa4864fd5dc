import DeviceMatrix.Proofs.Cli.Arguments
import DeviceMatrix.Proofs.Cli.Footprint
import DeviceMatrix.Proofs.Config.PageSize
import DeviceMatrix.Proofs.Source.Watching

/-! What a run asks of its source. The run is compared with one whose source notes its requests.
Up to the source and behind it nothing is asked for, so that the configuration and the options
decide on every request. -/
namespace DeviceMatrix

section

variable {σ : Type} (host : Host (StateM σ)) (path : String)

theorem silent_readText : Silent id (host.watched.readText path) (host.readText path) :=
  (Sends.lift (host.read path)).bind fun _ => .pure id _

theorem silent_load : Silent id (Config.load host.watched path) (Config.load host path) := by
  refine (silent_readText host path).bind fun read => ?_
  rw [id]
  cases read with
  | error error => exact .pure id _
  | ok text =>
    dsimp only
    cases Config.parse text with
    | error problem => exact .pure id _
    | ok config => exact .pure id _

theorem Report.silent_prepare :
    Silent id (Report.prepare host.watched path) (Report.prepare host path) := by
  unfold Report.prepare
  cases Host.Path.parent? path with
  | none => exact .pure id _
  | some parent =>
    dsimp only
    split
    · exact .pure id _
    · refine (Sends.lift (host.present parent)).bind fun present => ?_
      rw [id]
      split
      · exact .pure id _
      · refine (Sends.lift (host.makeDirectories parent)).bind fun made => ?_
        cases made with
        | error error => exact .pure id _
        | ok => exact .pure id _

theorem Report.silent_write (content : String) :
    Silent id (Report.write host.watched path content) (Report.write host path content) := by
  refine (Report.silent_prepare host path).bind fun prepared => ?_
  cases prepared with
  | error error => exact .pure id _
  | ok =>
    refine (Sends.lift (host.write path (Text.encode content))).bind fun wrote => ?_
    cases wrote with
    | error error => exact .pure id _
    | ok => exact .pure id _

end

namespace Cli

section

variable {m : Type → Type} [Monad m]

/-- A source that was opened, with its requests noted. -/
def notedSource (opened : Opened m) : Opened (StateT (List Request) m) :=
  opened.map fun result => result.map (·.noted)

def notedPair (prepared : Attempt (Config × StepSource m)) :
    Attempt (Config × StepSource (StateT (List Request) m)) :=
  prepared.map fun result => result.map fun (config, source) => (config, source.noted)

/-- Opens a source whose requests are noted. -/
def openWatched (host : Host m) (source : SourceConfig) :
    StateT (List Request) m (Opened (StateT (List Request) m)) := do
  let opened ← (openSource host source : m (Opened m))
  return notedSource opened

end

variable {σ : Type} (host : Host (StateM σ))

theorem silent_openWatched (source : SourceConfig) :
    Silent notedSource (openWatched host source) (openSource host source) := by
  refine fun state => ⟨[], nofun, fun requests => ?_⟩
  rw [List.append_nil]
  rfl

theorem silent_prepare (path : String) (execution : Option String) :
    Silent notedPair (prepare host.watched (openWatched host) path execution)
      (prepare host (openSource host) path execution) := by
  refine (silent_load host path).bind fun loaded => ?_
  rw [id]
  cases loaded with
  | error error => exact .pure notedPair ⟨.error _, _⟩
  | ok config =>
    cases execution
    all_goals
      refine (silent_openWatched host config.source).bind fun opened => ?_
      obtain ⟨value, log⟩ := opened
      cases value with
      | error error => exact .pure notedPair ⟨.error error, _⟩
      | ok source => exact .pure notedPair ⟨.ok (_, source), _⟩

theorem silent_deliver (output : Option String) (report : String) :
    Silent id (deliver host.watched output report) (deliver host output report) := by
  cases output with
  | none => exact .pure id _
  | some path => exact (Report.silent_write host path report).bind fun _ => .pure id _

/-- The requests of a summary. Without a source there are none. -/
def Listed (pageSize : Option PageSize) (prepared : Attempt (Config × StepSource (StateM σ)))
    (made : List Request) : Prop :=
  match prepared.value with
  | .error _ => made = []
  | .ok (config, _) => ∀ request ∈ made, ∃ token,
      request = .list config.handle token (pageSize.getD config.pageSize).val

/-- The requests of a rollup: one, if there is a source. -/
def RolledUp (prepared : Attempt (Config × StepSource (StateM σ))) (made : List Request) : Prop :=
  match prepared.value with
  | .error _ => made = []
  | .ok (config, _) => made = [.rollup config.handle]

variable (setting : Setting) (path : String) (execution : Option String) (state : σ)

theorem exists_makes_summary (format : Option Report.Format) (output : Option String)
    (pageSize : Option PageSize) :
    ∃ made, Listed pageSize ((prepare host (openSource host) path execution).run state).1 made ∧
      Makes id
        (summary setting host.watched (openWatched host) path format output pageSize execution)
        (summary setting host (openSource host) path format output pageSize execution) state
        made := by
  refine (silent_prepare host path execution).exists_makes (fun prepared state => ?_) state
  obtain ⟨value, log⟩ := prepared
  cases value with
  | error error => exact ⟨[], rfl, .pure id _ state⟩
  | ok found =>
    obtain ⟨config, source⟩ := found
    let fetcher : Fetcher (StateM σ) :=
      ⟨source, config.handle, (pageSize.getD config.pageSize).val⟩
    refine ((fetcher.sends_summary Fetcher.requestLimit).bind fun fetched => ?_) state
    rw [id]
    obtain ⟨value, log⟩ := fetched
    cases value with
    | error error => exact .pure id _
    | ok rows => exact (silent_deliver host output _).sends.bind fun _ => .pure id _

theorem exists_makes_rollup :
    ∃ made, RolledUp ((prepare host (openSource host) path execution).run state).1 made ∧
      Makes id (rollup host.watched (openWatched host) path execution)
        (rollup host (openSource host) path execution) state made := by
  refine (silent_prepare host path execution).exists_makes (fun prepared state => ?_) state
  obtain ⟨value, log⟩ := prepared
  cases value with
  | error error => exact ⟨[], rfl, .pure id _ state⟩
  | ok found =>
    obtain ⟨config, source⟩ := found
    let fetcher : Fetcher (StateM σ) := { source, handle := config.handle }
    exact ⟨[.rollup config.handle], rfl, (fetcher.makes_rollup state).bind (.pure id _ _)⟩

theorem silent_validate : Silent id (validate host.watched path) (validate host path) := by
  refine (silent_load host path).bind fun loaded => ?_
  cases loaded with
  | error error => exact .pure id _
  | ok config => exact .pure id _

theorem silent_init (source : String) :
    Silent id (init host.watched path source) (init host path source) := by
  unfold init
  split
  · exact .pure id _
  · refine (Sends.lift (host.present path)).bind fun present => ?_
    rw [id]
    split
    · exact .pure id _
    · refine (Sends.lift (host.write path _)).bind fun wrote => ?_
      cases wrote with
      | error error => exact .pure id _
      | ok => exact .pure id _

/-- The requests of an action. Only two of them have a source to ask. -/
def Requested (host : Host (StateM σ)) (state : σ) (arguments : Arguments) (made : List Request) :
    Prop :=
  let prepared (execution : Option String) :=
    ((prepare host (openSource host) arguments.config execution).run state).1
  match arguments.action with
  | .summary _ _ pageSize execution => Listed pageSize (prepared execution) made
  | .rollup execution => RolledUp (prepared execution) made
  | .validate | .init _ => made = []

theorem exists_makes_perform (arguments : Arguments) :
    ∃ made, Requested host state arguments made ∧
      Makes id (perform setting host.watched (openWatched host) arguments)
        (perform setting host (openSource host) arguments) state made := by
  unfold Requested perform
  cases arguments.action with
  | summary format output pageSize execution =>
    obtain ⟨made, listed, makes⟩ := exists_makes_summary host setting arguments.config execution
      state format output pageSize
    exact ⟨made ++ [], by rwa [List.append_nil], makes.bind (.pure id _ _)⟩
  | rollup execution =>
    obtain ⟨made, rolledUp, makes⟩ := exists_makes_rollup host arguments.config execution state
    exact ⟨made ++ [], by rwa [List.append_nil], makes.bind (.pure id _ _)⟩
  | validate => exact ⟨[], rfl, (silent_validate host arguments.config).makes state⟩
  | init source => exact ⟨[], rfl, (silent_init host arguments.config source).makes state⟩

section

variable {host : Host (StateM σ)} {path : String} {state : σ} {text : List Char}
  (read : ((host.readText path).run state).1 = .ok text)

include read

theorem run_load :
    (Config.load host path).run state =
      (match Config.parse text with
        | .ok config => .ok config
        | .error problem => .error (.invalid (some path) problem),
      ((host.readText path).run state).2) := by
  rw [Config.load, StateT.run_bind]
  generalize (host.readText path).run state = found at read ⊢
  obtain ⟨_, next⟩ := found
  subst read
  change StateT.run (match Config.parse text with
    | .ok config => pure (.ok config)
    | .error problem => pure (.error (.invalid (some path) problem)) :
      StateM σ (Except ConfigError Config)) next = _
  cases Config.parse text <;> rfl

theorem prepared_of_accepted {config : Config} (accepted : Config.parse text = .ok config)
    (execution : Option String) :
    ((prepare host (openSource host) path execution).run state).1.value =
      ((openSource host config.source).run ((host.readText path).run state).2).1.value.map
        fun source => (config.executing execution, source) := by
  have loaded := run_load read
  rw [accepted] at loaded
  rw [prepare, StateT.run_bind, loaded]
  generalize ((host.readText path).run state).2 = next
  cases execution
  all_goals
    dsimp only [bind, StateT.bind, StateT.run]
    generalize openSource host config.source next = opened
    obtain ⟨⟨value, log⟩, next⟩ := opened
    cases value <;> rfl

theorem prepared_of_rejected {problem : Record.Problem}
    (rejected : Config.parse text = .error problem) (execution : Option String) :
    ∃ error,
      ((prepare host (openSource host) path execution).run state).1.value = .error error := by
  have loaded := run_load read
  rw [rejected] at loaded
  rw [prepare, StateT.run_bind, loaded]
  exact ⟨_, rfl⟩

end

/-! Without a source an action fails as its preparation failed. -/

theorem summary_of_error {error : Failure}
    (failed : ((prepare host (openSource host) path execution).run state).1.value = .error error)
    (format : Option Report.Format) (output : Option String) (pageSize : Option PageSize) :
    ((summary setting host (openSource host) path format output pageSize execution).run
      state).1.value = .error error := by
  rw [summary, StateT.run_bind]
  dsimp only [bind]
  generalize (prepare host (openSource host) path execution).run state = prepared at *
  simp only [failed]
  rfl

theorem rollup_of_error {error : Failure}
    (failed : ((prepare host (openSource host) path execution).run state).1.value = .error error) :
    ((rollup host (openSource host) path execution).run state).1.value = .error error := by
  rw [rollup, StateT.run_bind]
  dsimp only [bind]
  generalize (prepare host (openSource host) path execution).run state = prepared at *
  simp only [failed]
  rfl

theorem exit_of_rejected {arguments : Arguments} {text : List Char} {problem : Record.Problem}
    (read : ((host.readText arguments.config).run state).1 = .ok text)
    (rejected : Config.parse text = .error problem)
    (other : ∀ source, arguments.action ≠ .init source) :
    ((perform setting host (openSource host) arguments).run state).1.exit = 1 := by
  have prepared := prepared_of_rejected read rejected
  unfold perform
  cases asked : arguments.action with
  | summary format output pageSize execution =>
    obtain ⟨error, failed⟩ := prepared execution
    exact exit_conclude ⟨error, summary_of_error host setting _ execution state failed _ _ _⟩
  | rollup execution =>
    obtain ⟨error, failed⟩ := prepared execution
    exact exit_conclude ⟨error, rollup_of_error host _ execution state failed⟩
  | validate =>
    have loaded := run_load read
    rw [rejected] at loaded
    dsimp only
    rw [validate, StateT.run_bind, loaded]
    rfl
  | init source => exact absurd asked (other source)

theorem eq_nil_of_rejected {arguments : Arguments} {text : List Char} {problem : Record.Problem}
    (read : ((host.readText arguments.config).run state).1 = .ok text)
    (rejected : Config.parse text = .error problem) {made : List Request}
    (requested : Requested host state arguments made) : made = [] := by
  have prepared := prepared_of_rejected read rejected
  unfold Requested at requested
  cases asked : arguments.action with
  | summary format output pageSize execution =>
    obtain ⟨error, failed⟩ := prepared execution
    simpa only [asked, Listed, failed] using requested
  | rollup execution =>
    obtain ⟨error, failed⟩ := prepared execution
    simpa only [asked, RolledUp, failed] using requested
  | validate => simpa only [asked] using requested
  | init source => simpa only [asked] using requested

section

variable {host : Host (StateM σ)} {state : σ} {arguments : Arguments} {text : List Char}
  {config : Config} {made : List Request}
  (read : ((host.readText arguments.config).run state).1 = .ok text)
  (requested : Requested host state arguments made)

include read requested

theorem Requested.list (accepted : Config.parse text = .ok config) {format : Option Report.Format}
    {output : Option String} {pageSize : Option PageSize} {execution : Option String}
    (asked : arguments.action = .summary format output pageSize execution) (request : Request)
    (member : request ∈ made) :
    ∃ token, request = .list
      ⟨config.handle.project, config.handle.history, execution.getD config.handle.execution⟩ token
      (pageSize.getD config.pageSize).val := by
  have prepared := prepared_of_accepted read accepted execution
  simp only [Requested, asked, Listed, prepared] at requested
  generalize ((openSource host config.source).run _).1.value = opened at requested
  cases opened with
  | error error => exact absurd (requested ▸ member) List.not_mem_nil
  | ok source => exact requested request member

theorem Requested.rollup (accepted : Config.parse text = .ok config) {execution : Option String}
    (asked : arguments.action = .rollup execution) :
    made = match ((openSource host config.source).run
        ((host.readText arguments.config).run state).2).1.value with
      | .error _ => []
      | .ok _ => [.rollup ⟨config.handle.project, config.handle.history,
          execution.getD config.handle.execution⟩] := by
  have prepared := prepared_of_accepted read accepted execution
  simp only [Requested, asked, RolledUp, prepared] at requested
  generalize ((openSource host config.source).run _).1.value = opened at requested ⊢
  cases opened with
  | error error => exact requested
  | ok source => exact requested

end

theorem exists_problem_of_pageSize {text : List Char} {entries : List (String × Toml.Value)}
    {given : Toml.Value} (document : Toml.read? text = some entries)
    (gives : Config.pageSize? entries = some given)
    (bad : ∀ size : Nat, 0 < size → given ≠ .integer size) :
    ∃ problem, Config.parse text = .error problem := by
  cases parsed : Config.parse text with
  | error problem => exact ⟨problem, rfl⟩
  | ok config =>
    obtain ⟨_, same, settles⟩ := Config.settles_of_parse parsed
    obtain rfl := Option.some.inj (document.symm.trans same)
    rw [gives] at settles
    exact absurd settles (bad _ config.pageSize.property)

/-- If words give a text for the page size that spells none, nothing is read and nothing is asked
for. A rollup and a summary can be asked for with any names of a configuration and an execution, and
a summary with every text that spells a page size; any other text for one is refused as bad usage.

Requests are watched without any effect on the run. With a configuration that is accepted, a
summary asks for pages only, all of the execution that is given or else configured, and all of one
size: the one that is given, or else the one in the document, which is a positive integer, or else
a hundred. A rollup makes one request for that execution if its source can be opened, which a
helper always can. A document with anything but a positive integer for the page size is rejected,
and then nothing is asked for. -/
theorem requests_follow_configuration (words : List String) :
    (∀ text ∈ written "page-size" words, (∀ size, ¬SpellsPageSize text size) →
      ∃ printed, run setting host words = pure printed) ∧
    (∀ file execution front second, file ≠ some "" → Puts "config" file front →
      Puts "execution-id" execution second →
      (words = front ++ "rollup" :: second →
        parse words = .ok
          { config := file.getD "matrix-summary.toml", action := .rollup execution }) ∧
      ∀ size first, Puts "page-size" size first →
        words = front ++ "summary" :: (first ++ second) →
        (∀ given, Option.Rel (fun text size => SpellsPageSize text size.val) size given →
          parse words = .ok
            { config := file.getD "matrix-summary.toml"
              action := .summary none none given execution }) ∧
        ∀ text, size = some text → (∀ size, ¬SpellsPageSize text size) →
          run setting host words = pure { exit := 2, errors := usage }) ∧
    ∀ arguments text, parse words = .ok arguments →
      ((host.readText arguments.config).run state).1 = .ok text →
      let watched :=
        ((perform setting host.watched (openWatched host) arguments).run []).run state
      (watched.1.1, watched.2) = (run setting host words).run state ∧
      (∀ config, Config.parse text = .ok config →
        let execution := (written "execution-id" words).head?.getD config.handle.execution
        let handle := ⟨config.handle.project, config.handle.history, execution⟩
        (∃ entries, Toml.read? text = some entries ∧ match Config.pageSize? entries with
          | none => config.pageSize.val = 100
          | some value => value = .integer config.pageSize.val) ∧
        (∀ format output pageSize execution,
          arguments.action = .summary format output pageSize execution →
          ∃ size, SettlesPageSize words config.pageSize.val size ∧ 0 < size ∧
            ∀ request ∈ watched.1.2, ∃ token, request = .list handle token size) ∧
        ∀ execution, arguments.action = .rollup execution →
          (∀ helper, config.source = .helper helper → watched.1.2 = [.rollup handle]) ∧
          watched.1.2 = match ((openSource host config.source).run
              ((host.readText arguments.config).run state).2).1.value with
            | .error _ => []
            | .ok _ => [.rollup handle]) ∧
      ∀ entries given, Toml.read? text = some entries → Config.pageSize? entries = some given →
        (∀ size : Nat, 0 < size → given ≠ .integer size) →
        (∃ problem, Config.parse text = .error problem) ∧ watched.1.2 = [] ∧
          ((∀ source, arguments.action ≠ .init source) → watched.1.1.exit = 1) := by
  refine ⟨fun text wrote bad => ?_, ?_, ?_⟩
  · obtain ⟨stop, stopped⟩ := exists_stop_of_written wrote bad
    rw [run, stopped]
    cases stop <;> exact ⟨_, rfl⟩
  · refine fun file execution front second named names executions => ⟨?_, ?_⟩
    · rintro rfl
      rw [parse_append named names (by decide) (by decide +kernel), action_rollup executions]
      rfl
    rintro size first sizes rfl
    rw [run, parse_append named names (by decide) (by decide +kernel),
      action_summary sizes executions]
    refine ⟨fun given spelled => ?_, ?_⟩
    · cases spelled with
      | none => rfl
      | some spells =>
        have read := pageSize?_eq_some_iff.mpr spells
        simp only [Option.all_some, Option.bind_some, read, Option.isSome_some, if_true]
        rfl
    · rintro text rfl bad
      simp only [Option.all_some, pageSize?_eq_none_iff.mpr bad]
      rfl
  intro arguments text parsed read watched
  obtain ⟨made, requested, makes⟩ := exists_makes_perform host setting state arguments
  have ran : watched = _ := makes []
  rw [List.nil_append] at ran
  clear_value watched
  subst ran
  have execution := written_execution_of_parse parsed
  refine ⟨?_, fun config accepted => ⟨Config.settles_of_parse accepted, ?_, ?_⟩, ?_⟩
  · rw [run, parsed]
    rfl
  · intro format output pageSize given asked
    have settles := settlesPageSize_of_parse parsed config.pageSize
    rw [asked] at execution settles
    refine ⟨_, settles, Subtype.property _, fun request member => ?_⟩
    rw [execution]
    exact requested.list read accepted asked request member
  · intro given asked
    have requests := requested.rollup read accepted asked
    rw [asked] at execution
    rw [execution]
    refine ⟨fun helper named => ?_, requests⟩
    rw [named] at requests
    exact requests
  · intro entries given document gives bad
    obtain ⟨problem, rejected⟩ := exists_problem_of_pageSize document gives bad
    exact ⟨⟨problem, rejected⟩, eq_nil_of_rejected host state read rejected requested,
      exit_of_rejected host setting state read rejected⟩

def pagedText (size : String) : String :=
  configText ("type = 'fixture'\npath = 'r.json'\n[fetch]\npage_size = " ++ size ++ "\n")

/-- A directory with a recording of three steps, and with configurations for pages of three steps
and of none. -/
def shelf : Host.Machine where
  disk := { entries := [
    (["w"], .directory),
    (["w", "three.toml"], .file (Text.encode (pagedText "3"))),
    (["w", "zero.toml"], .file (Text.encode (pagedText "0"))),
    (["w", "r.json"], .file (Text.encode "\x7b\"steps\": [\x7b\x7d, \x7b\x7d, \x7b\x7d]\x7d"))] }
  home := "/w"
  directory := ["w"]

def pagedLine (size : String) : List String :=
  ["--config", "three.toml", "summary", "--page-size=" ++ size, "--execution-id", "x"]

theorem recording_is_asked_for_two_pages :
    let host := Host.Machine.host "/w"
    let asked (arguments : Arguments) :=
      (((perform {} host.watched (openWatched host) arguments).run []).run shelf).1
    let listing : Arguments :=
      { config := "three.toml", action := .summary none none (some ⟨2, by decide⟩) (some "x") }
    let nothing : Arguments := { config := "zero.toml", action := .rollup none }
    parse (pagedLine "2") = .ok listing ∧
    (∀ request ∈ (asked listing).2, ∃ token, request = .list ⟨"p", "h", "x"⟩ token 2) ∧
    (asked listing).2.length = 2 ∧
    run {} host (pagedLine "0") = pure { exit := 2, errors := usage } ∧
    run {} host (pagedLine "two") = pure { exit := 2, errors := usage } ∧
    (∃ printed, run {} host ["summary", "--page-size", "0"] = pure printed) ∧
    parse ["-c", "zero.toml", "rollup"] = .ok nothing ∧
    (asked nothing).2 = [] ∧ (asked nothing).1.exit = 1 := by
  intro host asked listing nothing
  have config : Puts "config" (some "three.toml") ["--config", "three.toml"] :=
    .apart (by decide +kernel)
  have execution : Puts "execution-id" (some "x") ["--execution-id", "x"] :=
    .apart (by decide +kernel)
  have spells : SpellsPageSize "2" 2 :=
    pageSize?_eq_some_iff.mp (by decide +kernel : pageSize? "2" = some ⟨2, Nat.two_pos⟩)
  have zeroth : ∀ size, ¬SpellsPageSize "0" size := pageSize?_eq_none_iff.mp (by decide +kernel)
  have word : ∀ size, ¬SpellsPageSize "two" size := pageSize?_eq_none_iff.mp (by decide +kernel)
  have named : some "three.toml" ≠ some "" := by decide
  have lines (size : String) :=
    ((requests_follow_configuration host {} shelf (pagedLine size)).2.1 _ _ _ _ named config
      execution).2 _ _ (.joined size) rfl
  have listed : parse (pagedLine "2") = .ok listing := (lines "2").1 _ (.some spells)
  have refused : parse ["-c", "zero.toml", "rollup"] = .ok nothing := by decide +kernel
  have three : ((host.readText "three.toml").run shelf).1 = .ok (pagedText "3").toList :=
    textAt_of_read (by decide +kernel)
  have zero : ((host.readText "zero.toml").run shelf).1 = .ok (pagedText "0").toList :=
    textAt_of_read (by decide +kernel)
  have accepted : Config.parse (pagedText "3").toList = .ok
      { handle := ⟨"p", "h", "e"⟩, pageSize := ⟨3, by decide⟩, source := .fixture "r.json"
        format := .table, suite := "matrix" } := by
    decide +kernel
  have given : ((Toml.read? (pagedText "0").toList).bind Config.pageSize?).map (·.found) =
      some (.integer 0) := by
    decide +kernel
  obtain ⟨value, found, isZero⟩ := Option.map_eq_some_iff.1 given
  obtain ⟨entries, document, gives⟩ := Option.bind_eq_some_iff.1 found
  have bad (size : Nat) (positive : 0 < size) : value ≠ .integer size := by
    rintro rfl
    have same : (size : Int) = 0 := Record.Found.integer.inj isZero
    omega
  obtain ⟨-, follows, -⟩ :=
    (requests_follow_configuration host {} shelf _).2.2 listing _ listed three
  obtain ⟨-, -, rejects⟩ :=
    (requests_follow_configuration host {} shelf _).2.2 nothing _ refused zero
  obtain ⟨-, empty, exit⟩ := rejects entries value document gives bad
  obtain ⟨size, settles, -, requests⟩ := (follows _ accepted).2.1 _ _ _ _ rfl
  have wrote : written "page-size" (pagedLine "2") = ["2"] := by decide +kernel
  rw [SettlesPageSize, wrote] at settles
  obtain rfl := spells.eq settles
  have apart : ∃ printed, run {} host ["summary", "--page-size", "0"] = pure printed :=
    (requests_follow_configuration host {} shelf _).1 "0" (by decide +kernel) zeroth
  exact ⟨listed, requests, by decide +kernel, (lines "0").2 _ rfl zeroth,
    (lines "two").2 _ rfl word, apart, refused, empty, exit nofun⟩

end Cli
end DeviceMatrix
