import DeviceMatrix.Config.Load
import DeviceMatrix.Proofs.Config.Entries
import DeviceMatrix.Proofs.Toml.Keys
import Mathlib

/-! Settings that are left out. A document may leave out sections and, in a section, settings that
have a default, and it may hold entries that no one knows. It makes the same configuration as the
document that has all sections and writes every default out, or neither makes one. -/
namespace DeviceMatrix.Config

open Record (Field Fields Problem Row Slots)
open Toml (Value)

/-! Documents that say the same. -/

/-- An entry that a table may have: its key, the value that stands for it where it is left out, if
there is one, and which values of it say the same. -/
structure Setting where
  key : String
  initial : Option Value := none
  same : Value → Value → Prop := Eq

/-- Two tables that say the same of every setting, once those that are left out are filled in. The
order of the entries does not matter, nor do entries that are no settings. -/
def Alike (settings : List Setting) (a b : List (String × Value)) : Prop :=
  ∀ setting ∈ settings, Option.Rel setting.same
    ((a.lookup setting.key).or setting.initial) ((b.lookup setting.key).or setting.initial)

/-- Two sections that say the same: they are written alike, or they are tables with settings alike.
Which settings there are can depend on the kind that a section names. -/
inductive SameSection (settings : Option Value → List Setting) : Value → Value → Prop where
  | refl (value : Value) : SameSection settings value value
  | tables {a b : List (String × Value)} (alike : Alike (settings (a.lookup "type")) a b) :
      SameSection settings (.table a) (.table b)

def executionSettings : List Setting :=
  [{ key := "project" }, { key := "history_id" }, { key := "execution_id" }]

def fetchSettings : List Setting := [{ key := "page_size", initial := some (.integer 100) }]

def helperSettings : List Setting :=
  [{ key := "command" }, { key := "working_dir" },
    { key := "timeout_secs", initial := some (.integer 60) }]

def fixtureSettings : List Setting := [{ key := "path" }]

def sourceSettings : Option Value → List Setting
  | some (.text "command") => { key := "type" } :: helperSettings
  | some (.text "fixture") => { key := "type" } :: fixtureSettings
  | _ => [{ key := "type" }]

def reportSettings : List Setting :=
  [{ key := "format", initial := some (.text "table") },
    { key := "testsuite_name", initial := some (.text "matrix") }]

/-- A section that may be left out is as good as empty. -/
def sections : List Setting :=
  [{ key := "execution", same := SameSection fun _ => executionSettings },
    { key := "fetch", initial := some (.table []), same := SameSection fun _ => fetchSettings },
    { key := "source", same := SameSection sourceSettings },
    { key := "report", initial := some (.table []), same := SameSection fun _ => reportSettings }]

/-! Answers, of which a refusal keeps nothing. -/

section Answers

variable {α β : Type} {x y : Except Problem α}

theorem toOption_eq_some_iff {content : α} : x.toOption = some content ↔ x = .ok content := by
  cases x <;> simp [Except.toOption]

theorem toOption_ext (same : ∀ content, x = .ok content ↔ y = .ok content) :
    x.toOption = y.toOption := by
  ext content
  rw [toOption_eq_some_iff, toOption_eq_some_iff, same content]

theorem toOption_map_congr (f : α → β) (same : x.toOption = y.toOption) :
    (x.map f).toOption = (y.map f).toOption := by
  have mapped (z : Except Problem α) : (z.map f).toOption = z.toOption.map f := by cases z <;> rfl
  rw [mapped, mapped, same]

end Answers

/-! Fields and settings. -/

/-- A field reads its setting: what it holds when it is left out is what the default reads as, and
values that say the same are read alike. -/
structure Serves {α : Type} (field : Field Value α) (setting : Setting) : Prop where
  key : field.key = setting.key
  initial : ∀ value, setting.initial = some value →
    value.Distinct ∧ field.absent.map .ok = some (field.read value)
  same : ∀ v w, v.Distinct → w.Distinct → setting.same v w →
    (field.read v).toOption = (field.read w).toOption

inductive ServeAll : {types : List Type} → Fields (Field Value) types → List Setting → Prop where
  | nil : ServeAll .nil []
  | cons {α : Type} {types : List Type} {field : Field Value α} {setting : Setting}
      {rest : Fields (Field Value) types} {settings : List Setting}
      (first : Serves field setting) (others : ServeAll rest settings) :
      ServeAll (.cons field rest) (setting :: settings)

section Serving

variable {α : Type} {types : List Type} {field : Field Value α} {setting : Setting}
  {fields : Fields (Field Value) types} {settings : List Setting} {a b : List (String × Value)}

theorem Serves.of_equal {key : String} {initial : Option Value} (named : field.key = key)
    (reads : ∀ value, initial = some value →
      value.Distinct ∧ field.absent.map .ok = some (field.read value)) :
    Serves field { key, initial } where
  key := named
  initial := reads
  same v w _ _ same := by rw [same]

theorem Serves.holds_iff (serves : Serves field setting) {given : Option Value} {content : α} :
    Holds field none given content ↔
      (given.or setting.initial).elim field.absent (fun value => (field.read value).toOption) =
        some content := by
  cases given with
  | some value =>
    rw [Option.some_or, Option.elim_some, toOption_eq_some_iff]
    constructor
    · intro holds
      cases holds with
      | given free read => exact read
    · exact .given rfl
  | none =>
    have kept : Holds field none none content ↔ field.absent = some content := by
      constructor
      · intro holds
        cases holds with
        | kept filled => exact filled
      · exact fun filled => .kept filled
    rw [kept, Option.none_or]
    cases initial : setting.initial with
    | none => rfl
    | some value =>
      obtain ⟨first, absent, read⟩ := Option.map_eq_some_iff.mp (serves.initial value initial).2
      rw [Option.elim_some, ← read, absent]
      rfl

theorem Serves.distinct_filled (serves : Serves field setting)
    (distinct : Value.Distinct (.table a)) (value : Value)
    (filled : (a.lookup setting.key).or setting.initial = some value) : value.Distinct := by
  rcases Option.or_eq_some_iff.mp filled with given | ⟨-, initial⟩
  · exact distinct.lookup given
  · exact (serves.initial value initial).1

variable (left : Value.Distinct (.table a)) (right : Value.Distinct (.table b))

include left right

theorem Serves.holds_congr (serves : Serves field setting)
    (alike : Option.Rel setting.same ((a.lookup setting.key).or setting.initial)
      ((b.lookup setting.key).or setting.initial)) {content : α} :
    Holds field none (a.lookup field.key) content ↔
      Holds field none (b.lookup field.key) content := by
  rw [serves.holds_iff, serves.holds_iff, serves.key]
  have first := serves.distinct_filled left
  have second := serves.distinct_filled right
  generalize (a.lookup setting.key).or setting.initial = x at *
  generalize (b.lookup setting.key).or setting.initial = y at *
  cases alike with
  | none => rfl
  | some same =>
    have alike := serves.same _ _ (first _ rfl) (second _ rfl) same
    rw [Option.elim_some, Option.elim_some, alike]

theorem ServeAll.rowHolds_congr (serve : ServeAll fields settings) (alike : Alike settings a b)
    {row : Row types} :
    RowHolds fields a (Fields.vacant types) row ↔ RowHolds fields b (Fields.vacant types) row := by
  induction serve with
  | nil => rfl
  | cons first others ih =>
    obtain ⟨here, behind⟩ := List.forall_mem_cons.mp alike
    obtain ⟨content, row⟩ := row
    exact and_congr (first.holds_congr left right here) (ih behind)

theorem ServeAll.fromEntries_congr (serve : ServeAll fields settings) (distinct : fields.keys.Nodup)
    (alike : Alike settings a b) :
    (fromEntries fields a (Fields.vacant types)).toOption =
      (fromEntries fields b (Fields.vacant types)).toOption := by
  refine toOption_ext fun row => ?_
  rw [fromEntries_eq_ok_iff distinct left.keys_nodup,
    fromEntries_eq_ok_iff distinct right.keys_nodup]
  exact serve.rowHolds_congr left right alike

end Serving

/-! Sections. -/

section Sections

variable {types : List Type} {fields : Fields (Field Value) types} {settings : List Setting}
  {v w : Value}

theorem ServeAll.section_congr {β : Type} (serve : ServeAll fields settings)
    (distinct : fields.keys.Nodup) {name : String} (f : Row types → β) (v w : Value)
    (left : v.Distinct) (right : w.Distinct) (same : SameSection (fun _ => settings) v w) :
    ((read name fields v).map f).toOption = ((read name fields w).map f).toOption := by
  cases same with
  | refl => rfl
  | tables alike =>
    exact toOption_map_congr f (serve.fromEntries_congr left right distinct alike)

theorem serves_required {α : Type} (key : String) (read : Value → Except Problem α) :
    Serves (required key read) { key } :=
  .of_equal rfl nofun

theorem serves_defaulted {α : Type} (key : String) {read : Value → Except Problem α}
    {initial : α} {value : Value} (distinct : value.Distinct) (reads : read value = .ok initial) :
    Serves (defaulted key read initial) { key, initial := some value } := by
  refine .of_equal rfl ?_
  rintro _ ⟨⟩
  exact ⟨distinct, congrArg some reads.symm⟩

theorem serve_handle : ServeAll handleFields executionSettings :=
  .cons (serves_required ..) <| .cons (serves_required ..) <| .cons (serves_required ..) .nil

theorem serve_fetch : ServeAll fetchFields fetchSettings :=
  .cons (serves_defaulted _ (.integer 100) rfl) .nil

theorem serve_report : ServeAll reportFields reportSettings :=
  .cons (serves_defaulted _ (.text "table") rfl) <|
    .cons (serves_defaulted _ (.text "matrix") rfl) .nil

theorem serve_helper : ServeAll helperFields helperSettings :=
  .cons (serves_required ..) <| .cons (.of_equal rfl nofun) <|
    .cons (serves_defaulted _ (.integer 60) rfl) .nil

theorem serve_fixture : ServeAll fixtureFields fixtureSettings := .cons (serves_required ..) .nil

theorem kind_of_readKind {value : Value} {kind : Kind} (read : readKind value = .ok kind) :
    (value = .text "command" ∧ kind = .helper) ∨ (value = .text "fixture" ∧ kind = .fixture) := by
  cases value with
  | text name =>
    by_cases command : name = "command"
    · subst command
      cases read
      exact .inl ⟨rfl, rfl⟩
    by_cases fixture : name = "fixture"
    · subst fixture
      cases read
      exact .inr ⟨rfl, rfl⟩
    · have unknown : kinds.lookup name = none :=
        lookup_eq_none_iff_not_mem.mpr (by simp [kinds, command, fixture])
      rw [readKind, unknown] at read
      contradiction
  | _ => contradiction

theorem Alike.without {a b : List (String × Value)} (alike : Alike settings a b) {key : String}
    (apart : ∀ setting ∈ settings, setting.key ≠ key) :
    Alike settings (a.filter (·.1 ≠ key)) (b.filter (·.1 ≠ key)) := by
  intro setting listed
  rw [lookup_filter_ne (apart setting listed), lookup_filter_ne (apart setting listed)]
  exact alike setting listed

theorem kind_of_alike {a b : List (String × Value)}
    (alike : Alike (sourceSettings (a.lookup "type")) a b) :
    a.lookup "type" = b.lookup "type" := by
  have listed : { key := "type" } ∈ sourceSettings (a.lookup "type") := by
    unfold sourceSettings
    split <;> exact List.mem_cons_self
  have same := alike _ listed
  rw [Option.or_none, Option.or_none] at same
  generalize a.lookup "type" = x, b.lookup "type" = y at same ⊢
  cases same with
  | none => rfl
  | some equal => exact congrArg some equal

/-- The settings of a source are those of its kind, and the kind itself is not among them. -/
theorem readSource_congr (left : v.Distinct) (right : w.Distinct)
    (same : SameSection sourceSettings v w) :
    (readSource v).toOption = (readSource w).toOption := by
  cases same with
  | refl => rfl
  | @tables a b alike =>
    rw [readSource, readSource, ← kind_of_alike alike]
    cases named : a.lookup "type" with
    | none => rfl
    | some value =>
      rw [named] at alike
      cases read : readKind value with
      | error => simp [read, Except.bind, Except.toOption]
      | ok kind =>
        rcases kind_of_readKind read with ⟨rfl, rfl⟩ | ⟨rfl, rfl⟩
        · have others : Alike helperSettings a b := (List.forall_mem_cons.mp alike).2
          refine toOption_map_congr _ ?_
          exact serve_helper.fromEntries_congr (left.filter _) (right.filter _) (by decide)
            (others.without (by decide))
        · have others : Alike fixtureSettings a b := (List.forall_mem_cons.mp alike).2
          refine toOption_map_congr _ ?_
          exact serve_fixture.fromEntries_congr (left.filter _) (right.filter _) (by decide)
            (others.without (by decide))

end Sections

theorem serve_sections : ServeAll fields sections := by
  have empty : Value.Distinct (.table []) := .table List.nodup_nil nofun
  refine .cons ⟨rfl, nofun, serve_handle.section_congr (by decide) _⟩ <|
    .cons ⟨rfl, ?_, serve_fetch.section_congr (by decide) _⟩ <|
    .cons ⟨rfl, nofun, fun _ _ => readSource_congr⟩ <|
    .cons ⟨rfl, ?_, serve_report.section_congr (by decide) _⟩ .nil
  · rintro _ ⟨⟩
    exact ⟨empty, rfl⟩
  · rintro _ ⟨⟩
    exact ⟨empty, rfl⟩

theorem toOption_ofText (text : String) :
    (ofText text).toOption = (parse text.toList).toOption := by
  rw [ofText]
  cases parse text.toList <;> rfl

/-- Documents that say the same of every setting are both refused, or make the same configuration.
It does not matter whether a section with defaults is left out, empty, or holds some of its
settings, nor which of the others are written with their defaults; and entries that the sections
do not know change nothing, wherever they stand. -/
theorem defaults_agree_everywhere {first second : String} {a b : List (String × Value)}
    (readFirst : Toml.read? first.toList = some a) (readSecond : Toml.read? second.toList = some b)
    (alike : Alike sections a b) : (ofText first).toOption = (ofText second).toOption := by
  have left := Toml.distinct_of_read? readFirst
  have right := Toml.distinct_of_read? readSecond
  rw [toOption_ofText, toOption_ofText, parse, parse, readFirst, readSecond]
  exact toOption_map_congr _ (serve_sections.fromEntries_congr left right (by decide) alike)

/-- A configuration that leaves out what can be left out. -/
def terseText : String :=
  "[execution]\nproject='p'\nhistory_id='h'\nexecution_id='e'\n" ++
  "[source]\ntype='command'\ncommand='c'\n"

/-- The same with a default, an empty section and entries that no one knows behind it. -/
def wordyText : String :=
  terseText ++ "timeout_secs=60\npath=1\n[fetch]\n[report]\nformat='table'\ncolour=2\n[x]\n"

def terseEntries : List (String × Value) :=
  [("execution", .table [("project", .text "p"), ("history_id", .text "h"),
      ("execution_id", .text "e")]),
    ("source", .table [("type", .text "command"), ("command", .text "c")])]

def wordyEntries : List (String × Value) :=
  [("execution", .table [("project", .text "p"), ("history_id", .text "h"),
      ("execution_id", .text "e")]),
    ("source", .table [("type", .text "command"), ("command", .text "c"),
      ("timeout_secs", .integer 60), ("path", .integer 1)]),
    ("fetch", .table []),
    ("report", .table [("format", .text "table"), ("colour", .integer 2)]),
    ("x", .table [])]

set_option maxRecDepth 2000 in
theorem wordy_text_makes_same :
    Toml.read? terseText.toList = some terseEntries ∧
    Toml.read? wordyText.toList = some wordyEntries ∧
    Alike sections terseEntries wordyEntries ∧
    (ofText terseText).toOption = (ofText wordyText).toOption ∧
    (ofText terseText).toOption.isSome := by
  have terse : Toml.read? terseText.toList = some terseEntries := by cbv
  have wordy : Toml.read? wordyText.toList = some wordyEntries := by cbv
  have alike : Alike sections terseEntries wordyEntries := by
    simp only [Alike, sections, List.forall_mem_cons]
    refine ⟨.some (.refl _), .some (.refl _), .some (.tables ?_), .some (.tables ?_),
      List.forall_mem_nil _⟩
    · simp [Alike, sourceSettings, helperSettings, List.lookup_cons]
    · simp [Alike, reportSettings, List.lookup_cons]
  have accepted : (ofText terseText).toOption.isSome := by
    rw [toOption_ofText, parse, terse]
    decide
  exact ⟨terse, wordy, alike, defaults_agree_everywhere terse wordy alike, accepted⟩

end DeviceMatrix.Config
