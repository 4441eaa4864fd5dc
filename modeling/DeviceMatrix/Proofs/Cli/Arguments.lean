import DeviceMatrix.Proofs.Cli.Words
import DeviceMatrix.Proofs.Text.Decimal
import Mathlib.Algebra.Ring.Nat

/-! The page size and the execution that a command line asks for. If the words are accepted, these
are what is written in them, and a page size that is written is a positive number. -/
namespace DeviceMatrix.Cli

/-- The text spells a page size, which fits 64 bits. -/
def SpellsPageSize (text : String) (size : Nat) : Prop :=
  0 < size ∧ size < 2 ^ 64 ∧ Decimal.Spells text.toList size

theorem pageSize?_eq_some_iff {text : String} {size : PageSize} :
    pageSize? text = some size ↔ SpellsPageSize text size.val := by
  obtain ⟨size, positive⟩ := size
  have bound : size ≤ Decimal.maxWord ↔ size < 2 ^ 64 := by rw [Decimal.maxWord]; omega
  rw [SpellsPageSize, and_iff_right positive, ← bound, and_comm, ← Decimal.word?_eq_some_iff,
    pageSize?]
  cases Decimal.word? text.toList with
  | none => simp
  | some given =>
    cases given with
    | zero => simp [positive.ne]
    | succ given => simp [eq_comm]

theorem SpellsPageSize.eq {text : String} {size other : Nat} (spells : SpellsPageSize text size)
    (again : SpellsPageSize text other) : size = other := by
  have read : pageSize? text = some ⟨size, spells.1⟩ := pageSize?_eq_some_iff.mpr spells
  have reread : pageSize? text = some ⟨other, again.1⟩ := pageSize?_eq_some_iff.mpr again
  exact congrArg Subtype.val (Option.some.inj (read.symm.trans reread))

theorem pageSize?_eq_none_iff {text : String} :
    pageSize? text = none ↔ ∀ size, ¬SpellsPageSize text size := by
  rw [Option.eq_none_iff_forall_ne_some]
  constructor
  · intro unread size spells
    exact unread ⟨size, spells.1⟩ (pageSize?_eq_some_iff.mpr spells)
  · intro bad size read
    exact bad _ (pageSize?_eq_some_iff.mp read)

def Action.pageSize? : Action → Option PageSize
  | summary _ _ pageSize _ => pageSize
  | _ => none

def Action.execution? : Action → Option String
  | summary _ _ _ execution => execution
  | rollup execution => execution
  | _ => none

section

variable {specs : List Spec} {name : String} {words : List String} {given : Given}

/-- Behind the name of an action all words are options of it. -/
theorem written_of_ending (named : IsLong specs name) (whole : '=' ∉ name.toList) (some : name ≠ "")
    (done : ending specs words = .ok given) :
    written name words = (given.lookup name).toList ∧ ∀ value ∈ written name words,
      ∃ spec ∈ specs, spec.long = name ∧ spec.accepts.all (· value) := by
  obtain ⟨⟨later, rest⟩, read, done⟩ := bind_ok done
  split at done
  · next same =>
    cases same
    cases done
    obtain ⟨values, adds, wrote⟩ := options_adds named whole some read
    rw [written, List.append_nil] at wrote
    subst wrote
    exact ⟨adds.lookup.symm, adds.allowed⟩
  · contradiction

theorem written_of_foreign (foreign : ∀ spec ∈ specs, spec.long ≠ name) (whole : '=' ∉ name.toList)
    (some : name ≠ "") (done : ending specs words = .ok given) : written name words = [] := by
  have named : IsLong specs name := fun spec listed same => absurd same (foreign spec listed)
  obtain ⟨-, allowed⟩ := written_of_ending named whole some done
  refine List.eq_nil_iff_forall_not_mem.mpr fun value member => ?_
  obtain ⟨spec, listed, same, -⟩ := allowed value member
  exact foreign spec listed same

end

section

variable {words : List String} {arguments : Arguments}

/-- In front of an action there are only the options of the program, and its name is none. -/
theorem written_of_parse {name : String} (whole : '=' ∉ name.toList) (some : name ≠ "")
    (foreign : name ≠ "config" ∧ name ≠ "verbose") (parsed : parse words = .ok arguments) :
    ∃ rest, action rest = .ok arguments.action ∧ written name words = written name rest := by
  obtain ⟨⟨given, rest⟩, read, parsed⟩ := bind_ok parsed
  obtain ⟨asked, acts, parsed⟩ := bind_ok parsed
  cases parsed
  refine ⟨rest, acts, ?_⟩
  have unknown : ∀ spec ∈ [configOption, verboseOption], spec.long ≠ name := by
    simp [configOption, verboseOption, foreign.1.symm, foreign.2.symm]
  obtain ⟨values, adds, wrote⟩ :=
    options_adds (fun spec listed same => absurd same (unknown spec listed)) whole some read
  have none : values = [] := by
    refine List.eq_nil_iff_forall_not_mem.mpr fun value member => ?_
    obtain ⟨spec, listed, same, -⟩ := adds.allowed value member
    exact unknown spec listed same
  rw [wrote, none, List.nil_append]

theorem action_cases {words : List String} {asked : Action} (acts : action words = .ok asked) :
    (∃ rest given, words = "summary" :: rest ∧
      ending [formatOption, outputOption, pageSizeOption, executionOption] rest = .ok given ∧
      asked = .summary ((value? given formatOption).bind Report.Format.ofName?)
        (value? given outputOption) ((value? given pageSizeOption).bind pageSize?)
        (value? given executionOption)) ∨
    (∃ rest given, words = "rollup" :: rest ∧ ending [executionOption] rest = .ok given ∧
      asked = .rollup (value? given executionOption)) ∨
    (∃ rest given, words = "validate" :: rest ∧ ending [] rest = .ok given ∧ asked = .validate) ∨
    ∃ rest given source, words = "init" :: rest ∧ ending [sourceOption] rest = .ok given ∧
      asked = .init source := by
  unfold action at acts
  split at acts
  · obtain ⟨given, ends, done⟩ := bind_ok acts
    exact .inl ⟨_, given, rfl, ends, (Except.ok.inj done).symm⟩
  · obtain ⟨given, ends, done⟩ := bind_ok acts
    exact .inr (.inl ⟨_, given, rfl, ends, (Except.ok.inj done).symm⟩)
  · obtain ⟨_, discarded, done⟩ := bind_ok acts
    obtain ⟨given, ends, -⟩ := map_ok discarded
    exact .inr (.inr (.inl ⟨_, given, rfl, ends, (Except.ok.inj done).symm⟩))
  · obtain ⟨given, ends, done⟩ := bind_ok acts
    exact .inr (.inr (.inr ⟨_, given, _, rfl, ends, (Except.ok.inj done).symm⟩))
  · contradiction
  · contradiction
  · contradiction

theorem written_pageSize_of_parse (parsed : parse words = .ok arguments) :
    ∃ size, written "page-size" words = size.toList ∧
      Option.Rel (fun text size => SpellsPageSize text size.val) size
        arguments.action.pageSize? := by
  have whole : '=' ∉ "page-size".toList := by decide
  have some : "page-size" ≠ "" := by decide
  obtain ⟨rest, acts, wrote⟩ := written_of_parse whole some (by decide) parsed
  rw [wrote]
  rcases action_cases acts with ⟨rest, given, rfl, ends, asked⟩ | ⟨rest, given, rfl, ends, asked⟩ |
    ⟨rest, given, rfl, ends, asked⟩ | ⟨rest, given, source, rfl, ends, asked⟩
  all_goals rw [asked, written_cons_of_plain (by decide)]
  · obtain ⟨values, allowed⟩ := written_of_ending (by decide) whole some ends
    refine ⟨_, values, ?_⟩
    show Option.Rel _ (given.lookup "page-size") ((given.lookup "page-size").bind pageSize?)
    rw [values] at allowed
    cases noted : given.lookup "page-size" with
    | none => exact .none
    | some text =>
      obtain ⟨spec, listed, named, accepts⟩ := allowed text (by simp [noted])
      obtain rfl : spec = pageSizeOption := by
        simp only [List.mem_cons, List.not_mem_nil, or_false] at listed
        rcases listed with rfl | rfl | rfl | rfl
        · exact absurd named (by decide)
        · exact absurd named (by decide)
        · rfl
        · exact absurd named (by decide)
      obtain ⟨size, read⟩ := Option.isSome_iff_exists.mp accepts
      rw [Option.bind_some, read]
      exact .some (pageSize?_eq_some_iff.mp read)
  · exact ⟨none, written_of_foreign (by decide) whole some ends, .none⟩
  · exact ⟨none, written_of_foreign (by decide) whole some ends, .none⟩
  · exact ⟨none, written_of_foreign (by decide) whole some ends, .none⟩

/-- The page size that words settle: the one that is written in them, and else the one that is
configured. -/
def SettlesPageSize (words : List String) (configured size : Nat) : Prop :=
  match written "page-size" words with
  | [] => size = configured
  | [text] => SpellsPageSize text size
  | _ => False

theorem settlesPageSize_of_parse (parsed : parse words = .ok arguments) (configured : PageSize) :
    SettlesPageSize words configured.val (arguments.action.pageSize?.getD configured).val := by
  obtain ⟨text, wrote, size⟩ := written_pageSize_of_parse parsed
  rw [SettlesPageSize, wrote]
  generalize arguments.action.pageSize? = asked at *
  cases size with
  | none => rfl
  | some spells => exact spells

theorem exists_stop_of_written {text : String} (wrote : text ∈ written "page-size" words)
    (bad : ∀ size, ¬SpellsPageSize text size) : ∃ stop, parse words = .error stop := by
  cases parsed : parse words with
  | error stop => exact ⟨stop, rfl⟩
  | ok arguments =>
    obtain ⟨given, same, size⟩ := written_pageSize_of_parse parsed
    rw [same] at wrote
    generalize arguments.action.pageSize? = asked at *
    cases size with
    | none => contradiction
    | some spells =>
      cases List.mem_singleton.mp wrote
      exact absurd spells (bad _)

theorem written_execution_of_parse (parsed : parse words = .ok arguments) :
    (written "execution-id" words).head? = arguments.action.execution? := by
  have whole : '=' ∉ "execution-id".toList := by decide
  have some : "execution-id" ≠ "" := by decide
  obtain ⟨rest, acts, wrote⟩ := written_of_parse whole some (by decide) parsed
  rw [wrote]
  rcases action_cases acts with ⟨rest, given, rfl, ends, asked⟩ | ⟨rest, given, rfl, ends, asked⟩ |
    ⟨rest, given, rfl, ends, asked⟩ | ⟨rest, given, source, rfl, ends, asked⟩
  all_goals rw [asked, written_cons_of_plain (by decide)]
  · rw [(written_of_ending (by decide) whole some ends).1, Option.head?_toList]
    rfl
  · rw [(written_of_ending (by decide) whole some ends).1, Option.head?_toList]
    rfl
  · rw [written_of_foreign (by decide) whole some ends]
    rfl
  · rw [written_of_foreign (by decide) whole some ends]
    rfl

end

section

variable {file size execution : Option String} {front first second : List String}

theorem execution_allowed (execution : Option String) :
    execution.all fun text => executionOption.accepts.all (· text) := by
  cases execution <;> rfl

theorem action_summary (sizes : Puts "page-size" size first)
    (executions : Puts "execution-id" execution second) :
    action ("summary" :: (first ++ second)) =
      if size.all fun text => (pageSize? text).isSome then
        .ok (.summary none none (size.bind pageSize?) execution)
      else .error .usage := by
  let specs := [formatOption, outputOption, pageSizeOption, executionOption]
  have found : specs.find? (·.long == "page-size") = some pageSizeOption := rfl
  have same : (size.all fun text => (pageSize? text).isSome) =
      size.all fun value => pageSizeOption.accepts.all (· value) := rfl
  rw [action, ending, ← List.append_nil second,
    options_append_of_new found rfl (by decide) (by decide) rfl sizes, same]
  by_cases sized : size.all fun value => pageSizeOption.accepts.all (· value)
  · have found : specs.find? (·.long == "execution-id") = some executionOption := rfl
    have named : ((size.map ("page-size", ·)).toList ++ []).lookup "execution-id" = none := by
      cases size <;> rfl
    rw [if_pos sized, if_pos sized,
      options_append_of_new found rfl (by decide) (by decide) named executions,
      if_pos (execution_allowed execution)]
    cases size <;> cases execution <;> rfl
  · rw [if_neg sized, if_neg sized]
    rfl

theorem action_rollup (executions : Puts "execution-id" execution second) :
    action ("rollup" :: second) = .ok (.rollup execution) := by
  have found : [executionOption].find? (·.long == "execution-id") = some executionOption := rfl
  rw [action, ending, ← List.append_nil second,
    options_append_of_new found rfl (by decide) (by decide) rfl executions,
    if_pos (execution_allowed execution)]
  cases execution <;> rfl

theorem parse_append (named : file ≠ some "") (names : Puts "config" file front)
    {word : String} (other : word ≠ "--") (plain : isOption word = false) (rest : List String) :
    parse (front ++ word :: rest) = (action (word :: rest)).map fun action =>
      { config := file.getD "matrix-summary.toml", action } := by
  have path : file.all fun value => configOption.accepts.all (· value) := by
    cases file with
    | none => rfl
    | some file => simpa [configOption, isPath] using named
  have found : [configOption, verboseOption].find? (·.long == "config") = some configOption := rfl
  rw [parse, options_append_of_new found rfl (by decide) (by decide) rfl names, if_pos path,
    options_cons, if_neg other, if_neg (ne_true_of_eq_false plain)]
  show (action (word :: rest)).bind _ = _
  cases action (word :: rest) with
  | error stop => rfl
  | ok action => cases file <;> rfl

end

end DeviceMatrix.Cli
