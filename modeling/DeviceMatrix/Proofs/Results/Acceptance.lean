import DeviceMatrix.Proofs.Json.Acceptance
import DeviceMatrix.Results.Wire

/-! The objects that the records of a results service are read from. Each record has its entries:
the keys, which values each of them may have and where the record keeps what they mean, which of
them must be there, which have a default, and which may be null. -/
namespace DeviceMatrix

open Json (AllWhole Codec Describes Entry IsFlag IsInt32 IsList IsRecord IsText Source objectOf)
open Json.Codec (flag_reads int32_reads list_reads text_reads)
open Text (Symbol)

/-- The words for an outcome. A word that is none of them is kept. -/
inductive IsOutcomeSummary : Source → OutcomeSummary → Prop where
  | success : IsOutcomeSummary (.text (some "success")) .success
  | failure : IsOutcomeSummary (.text (some "failure")) .failure
  | inconclusive : IsOutcomeSummary (.text (some "inconclusive")) .inconclusive
  | skipped : IsOutcomeSummary (.text (some "skipped")) .skipped
  | unset : IsOutcomeSummary (.text (some "unset")) .unset
  | unrecognized {word : String}
      (other : word ∉ ["success", "failure", "inconclusive", "skipped", "unset"]) :
      IsOutcomeSummary (.text (some word)) (.unrecognized word)

def ExecutionHandle.entries : List (Entry ExecutionHandle) :=
  [.required "project" IsText (·.project), .required "history_id" IsText (·.history),
    .required "execution_id" IsText (·.execution)]

def FailureDetail.entries : List (Entry FailureDetail) :=
  [.defaulted "crashed" IsFlag false (·.crashed), .defaulted "timedOut" IsFlag false (·.timedOut),
    .defaulted "notInstalled" IsFlag false (·.notInstalled)]

def InconclusiveDetail.entries : List (Entry InconclusiveDetail) :=
  [.defaulted "infrastructureFailure" IsFlag false (·.infrastructureFailure),
    .defaulted "abortedByUser" IsFlag false (·.abortedByUser),
    .defaulted "nativeCrash" IsFlag false (·.nativeCrash)]

def SkippedDetail.entries : List (Entry SkippedDetail) :=
  [.defaulted "incompatibleDevice" IsFlag false (·.incompatibleDevice),
    .defaulted "incompatibleArchitecture" IsFlag false (·.incompatibleArchitecture),
    .defaulted "incompatibleAppVersion" IsFlag false (·.incompatibleAppVersion)]

def Outcome.entries : List (Entry Outcome) :=
  [.optional "summary" IsOutcomeSummary (·.summary),
    .optional "failureDetail" (IsRecord FailureDetail.entries) (·.failure),
    .optional "inconclusiveDetail" (IsRecord InconclusiveDetail.entries) (·.inconclusive),
    .optional "skippedDetail" (IsRecord SkippedDetail.entries) (·.skipped)]

def SuiteOverview.entries : List (Entry SuiteOverview) :=
  [.optional "name" IsText (·.name), .optional "totalCount" IsInt32 (·.total),
    .optional "errorCount" IsInt32 (·.errors), .optional "failureCount" IsInt32 (·.failures),
    .optional "skippedCount" IsInt32 (·.skipped)]

def TestExecution.entries : List (Entry TestExecution) :=
  [.defaulted "testSuiteOverviews" (IsList (IsRecord SuiteOverview.entries)) [] (·.overviews)]

def Dimension.entries : List (Entry Dimension) :=
  [.required "key" IsText (·.key), .required "value" IsText (·.value)]

def Step.entries : List (Entry Step) :=
  [.optional "stepId" IsText (·.id), .optional "name" IsText (·.name),
    .optional "outcome" (IsRecord Outcome.entries) (·.outcome),
    .optional "testExecutionStep" (IsRecord TestExecution.entries) (·.execution),
    .defaulted "dimensionValue" (IsList (IsRecord Dimension.entries)) [] (·.dimensions)]

def StepPage.entries : List (Entry StepPage) :=
  [.defaulted "steps" (IsList (IsRecord Step.entries)) [] (·.steps),
    .optional "nextPageToken" IsText (·.nextToken)]

def Execution.entries : List (Entry Execution) :=
  [.optional "executionId" IsText (·.id),
    .optional "outcome" (IsRecord Outcome.entries) (·.outcome)]

def Recording.entries : List (Entry Recording) :=
  [.defaulted "execution" (IsRecord Execution.entries) ⟨none, none⟩ (·.execution),
    .defaulted "steps" (IsList (IsRecord Step.entries)) [] (·.steps)]

theorem ofName_eq_iff {word : String} {summary : OutcomeSummary} :
    OutcomeSummary.ofName word = summary ↔ IsOutcomeSummary (.text (some word)) summary := by
  constructor
  · rintro rfl
    unfold OutcomeSummary.ofName
    repeat' split
    · next same => exact same ▸ .success
    · next same => exact same ▸ .failure
    · next same => exact same ▸ .inconclusive
    · next same => exact same ▸ .skipped
    · next same => exact same ▸ .unset
    · exact .unrecognized (by simp [*])
  · intro spelled
    cases spelled with
    | unrecognized other => simp_all [OutcomeSummary.ofName]
    | _ => rfl

theorem OutcomeSummary.codec_reads : codec.Reads IsOutcomeSummary := by
  refine ⟨fun source summary => map_eq_ok_iff.trans ?_, nofun⟩
  constructor
  · rintro ⟨word, read, made⟩
    cases (text_reads.read_iff _ _).mp read
    exact ofName_eq_iff.mp made
  · intro spelled
    have word : ∃ word, source = .text (some word) := by cases spelled <;> exact ⟨_, rfl⟩
    obtain ⟨word, rfl⟩ := word
    exact ⟨word, rfl, ofName_eq_iff.mpr spelled⟩

theorem ExecutionHandle.shape_reads : ExecutionHandle.shape.ReadsObjects entries := by
  refine Json.Shape.readsObjects ?_ (by decide)
  exact .required text_reads <| .required text_reads <|
    .required text_reads .nil

theorem FailureDetail.shape_reads : FailureDetail.shape.ReadsObjects entries := by
  refine Json.Shape.readsObjects ?_ (by decide)
  exact .defaulted flag_reads <| .defaulted flag_reads <|
    .defaulted flag_reads .nil

theorem InconclusiveDetail.shape_reads : InconclusiveDetail.shape.ReadsObjects entries := by
  refine Json.Shape.readsObjects ?_ (by decide)
  exact .defaulted flag_reads <| .defaulted flag_reads <|
    .defaulted flag_reads .nil

theorem SkippedDetail.shape_reads : SkippedDetail.shape.ReadsObjects entries := by
  refine Json.Shape.readsObjects ?_ (by decide)
  exact .defaulted flag_reads <| .defaulted flag_reads <|
    .defaulted flag_reads .nil

theorem Outcome.shape_reads : Outcome.shape.ReadsObjects entries := by
  refine Json.Shape.readsObjects ?_ (by decide)
  exact .optional OutcomeSummary.codec_reads <|
    .optional FailureDetail.shape_reads.reads <|
    .optional InconclusiveDetail.shape_reads.reads <|
    .optional SkippedDetail.shape_reads.reads .nil

theorem SuiteOverview.shape_reads : SuiteOverview.shape.ReadsObjects entries := by
  refine Json.Shape.readsObjects ?_ (by decide)
  exact .optional text_reads <| .optional int32_reads <|
    .optional int32_reads <| .optional int32_reads <|
    .optional int32_reads .nil

theorem TestExecution.shape_reads : TestExecution.shape.ReadsObjects entries := by
  refine Json.Shape.readsObjects ?_ (by decide)
  exact .defaulted (list_reads SuiteOverview.shape_reads.reads) .nil

theorem Dimension.shape_reads : Dimension.shape.ReadsObjects entries := by
  refine Json.Shape.readsObjects ?_ (by decide)
  exact .required text_reads <| .required text_reads .nil

theorem Step.shape_reads : Step.shape.ReadsObjects entries := by
  refine Json.Shape.readsObjects ?_ (by decide)
  exact .optional text_reads <| .optional text_reads <|
    .optional Outcome.shape_reads.reads <|
    .optional TestExecution.shape_reads.reads <|
    .defaulted (list_reads Dimension.shape_reads.reads) .nil

theorem StepPage.shape_reads : StepPage.shape.ReadsObjects entries := by
  refine Json.Shape.readsObjects ?_ (by decide)
  exact .defaulted (list_reads Step.shape_reads.reads) <| .optional text_reads .nil

theorem Execution.shape_reads : Execution.shape.ReadsObjects entries := by
  refine Json.Shape.readsObjects ?_ (by decide)
  exact .optional text_reads <| .optional Outcome.shape_reads.reads .nil

theorem Recording.shape_reads : Recording.shape.ReadsObjects entries := by
  refine Json.Shape.readsObjects ?_ (by decide)
  exact .defaulted Execution.shape_reads.reads <|
    .defaulted (list_reads Step.shape_reads.reads) .nil

/-- Every record of the service is read from the objects that its entries allow, with what they mean
for it, wherever the members stand and whatever there is besides, and from the arrays that go with
them. A text is read as the tree that it spells. -/
theorem records_read_objects :
    ExecutionHandle.shape.ReadsObjects ExecutionHandle.entries ∧
      FailureDetail.shape.ReadsObjects FailureDetail.entries ∧
      InconclusiveDetail.shape.ReadsObjects InconclusiveDetail.entries ∧
      SkippedDetail.shape.ReadsObjects SkippedDetail.entries ∧
      Outcome.shape.ReadsObjects Outcome.entries ∧
      SuiteOverview.shape.ReadsObjects SuiteOverview.entries ∧
      TestExecution.shape.ReadsObjects TestExecution.entries ∧
      Dimension.shape.ReadsObjects Dimension.entries ∧
      Step.shape.ReadsObjects Step.entries ∧
      StepPage.shape.ReadsObjects StepPage.entries ∧
      Execution.shape.ReadsObjects Execution.entries ∧
      Recording.shape.ReadsObjects Recording.entries ∧
      ∀ (text : List Symbol) (source : Source), Json.read text = ⟨source, false⟩ →
        ∀ {α : Type} (codec : Codec α), codec.readText text = codec.read source := by
  refine ⟨ExecutionHandle.shape_reads, FailureDetail.shape_reads, InconclusiveDetail.shape_reads,
    SkippedDetail.shape_reads, Outcome.shape_reads, SuiteOverview.shape_reads,
    TestExecution.shape_reads, Dimension.shape_reads, Step.shape_reads, StepPage.shape_reads,
    Execution.shape_reads, Recording.shape_reads, ?_⟩
  intro text source document α codec
  exact Codec.readText_eq_read document

/-- The members of a page without steps, in the order of its fields. -/
def lastPage : List (String × Source) :=
  [("steps", .array [] none), ("nextPageToken", .text (some "t"))]

/-- The same page with its members the other way round, and twice a key that no page knows. The
number there is beyond every double and the text spells no character. -/
def strayPage : List (String × Source) :=
  [("more", .array [.number .vast, .text none] none), ("nextPageToken", .text (some "t")),
    ("more", .null), ("steps", .array [] none)]

def nullPage : Json.Value := .object [("nextPageToken", .null), ("more", .array [.flag true])]

theorem stray_members_of_page :
    StepPage.shape.codec.read (objectOf lastPage) = .ok ⟨[], some "t"⟩ ∧
      StepPage.shape.codec.read (objectOf strayPage) = .ok ⟨[], some "t"⟩ ∧
      StepPage.shape.codec.read (.array [.array [] none, .text (some "t")] none) =
        .ok ⟨[], some "t"⟩ ∧
      StepPage.shape.codec.readText (Symbol.ofText (Json.print nullPage)) = .ok ⟨[], none⟩ ∧
      (¬∃ record, Recording.shape.codec.read (objectOf [("steps", .number (.integer 5))]) =
        .ok record) ∧
      (¬∃ record, Recording.shape.codec.read (objectOf [("execution", .null)]) = .ok record) ∧
      ¬∃ record, Dimension.shape.codec.read (objectOf [("key", .text (some "Model"))]) =
        .ok record := by
  obtain ⟨-, -, -, -, -, -, -, dimension, -, page, -, recording, texts⟩ := records_read_objects
  have whole {key : String} {value : Source} (skipped : value.skip? = none) :
      AllWhole [(key, value)] :=
    List.forall_mem_singleton.mpr ((Source.skip?_eq_none_iff value).mp skipped)
  have last : AllWhole lastPage := by
    simp [AllWhole, lastPage, ← Source.skip?_eq_none_iff, Source.skip?, Source.skipItems?]
  have stray : AllWhole strayPage := by
    simp [AllWhole, strayPage, ← Source.skip?_eq_none_iff, Source.skip?, Source.skipItems?]
  have read : StepPage.shape.codec.read (objectOf lastPage) = .ok ⟨[], some "t"⟩ := by
    refine (page.decoded lastPage _ last).mpr (List.forall_mem_cons.mpr ⟨?_, ?_⟩)
    · exact .given rfl (.array .nil)
    · exact List.forall_mem_singleton.mpr (.given rfl (.some (.text _)))
  refine ⟨read, ?_, ?_, ?_, ?_, ?_, ?_⟩
  · apply (page.known lastPage strayPage last stray ?_ _).mp read
    exact .swap _ _ []
  · apply (page.positional lastPage _ last ?_ _).mp read
    exact ⟨.inl rfl, .inl rfl, nofun⟩
  · rw [texts _ _ (Json.read_print nullPage)]
    apply (page.null [] _ _ (List.mem_cons_of_mem _ List.mem_cons_self) (whole rfl) rfl
      (by decide) _).mpr
    rfl
  · intro read
    have steps := (recording.accepted _ (whole rfl)).mp read _
      (List.mem_cons_of_mem _ List.mem_cons_self)
    obtain ⟨_, ⟨⟩⟩ := steps.2.1 _ List.mem_cons_self
  · intro read
    have execution := (recording.accepted _ (whole rfl)).mp read _ List.mem_cons_self
    obtain ⟨_, means⟩ := execution.2.1 _ List.mem_cons_self
    nomatch means
  · intro read
    have value := (dimension.accepted _ (whole rfl)).mp read _
      (List.mem_cons_of_mem _ List.mem_cons_self)
    exact value.2.2 rfl rfl

end DeviceMatrix
