import DeviceMatrix.Cli.Arguments
import DeviceMatrix.Proofs.Record.Steps
import Mathlib.Data.List.TakeWhile
import Mathlib.Tactic.Common

/-! What the words of a command line give for an option with a long name: the text behind an equals
sign, or the next word. The reader of the words finds just that, at most once, and only if the
option allows it. -/
namespace DeviceMatrix.Cli

/-- What a word itself gives for an option. -/
def joined? (name word : String) : Option String :=
  let start := ("--" ++ name ++ "=").toList
  if start <+: word.toList then some (String.ofList (word.toList.drop start.length)) else none

/-- All that the words give for an option. -/
def written (name : String) : List String → List String
  | [] => []
  | word :: words =>
    if word = "--" ++ name then words.head?.toList ++ written name words
    else (joined? name word).toList ++ written name words

/-! Words. -/

section Words

variable {name word value : String} {words : List String} {body : List Char}

section

variable {key value : List Char} (whole : '=' ∉ key)

include whole

theorem all_ne_sign : ∀ c ∈ key, decide (c ≠ '=') := fun _ member =>
  decide_eq_true (ne_of_mem_of_not_mem member whole)

theorem takeWhile_before : (key ++ '=' :: value).takeWhile (· ≠ '=') = key := by
  rw [List.takeWhile_append_of_pos (all_ne_sign whole), List.takeWhile_cons_of_neg (by decide),
    List.append_nil]

theorem dropWhile_before : (key ++ '=' :: value).dropWhile (· ≠ '=') = '=' :: value := by
  rw [List.dropWhile_append_of_pos (all_ne_sign whole), List.dropWhile_cons_of_neg (by decide)]

end

theorem isOption_of_dashes (marked : ['-', '-'] <+: word.toList) : isOption word := by
  obtain ⟨body, spelled⟩ := marked
  have other : word ≠ "-" := by
    rintro rfl
    cases spelled
  have starts : word.startsWith "-" := String.startsWith_string_iff.mpr ⟨'-' :: body, spelled⟩
  simp [isOption, starts, other]

theorem written_cons_of_plain (plain : ¬['-', '-'] <+: word.toList) :
    written name (word :: words) = written name words := by
  have apart : word ≠ "--" ++ name := by
    rintro rfl
    exact plain ⟨name.toList, by simp⟩
  have alone : joined? name word = none := by
    refine if_neg fun joined => plain (.trans ?_ joined)
    exact ⟨name.toList ++ ['='], by simp⟩
  rw [written, if_neg apart, alone]
  rfl

theorem written_cons_of_isOption (value : isOption word = false) :
    written name (word :: words) = written name words := by
  refine written_cons_of_plain fun marked => ?_
  rw [isOption_of_dashes marked] at value
  contradiction

variable (plain : '=' ∉ name.toList) (spelled : word.toList = '-' :: '-' :: body)

include spelled

theorem written_cons_of_apart (whole : '=' ∉ body) :
    written name (word :: words) =
      (if String.ofList body = name then words.head?.toList else []) ++ written name words := by
  have same : word = "--" ++ name ↔ String.ofList body = name := by
    rw [← String.toList_inj, ← String.toList_inj, spelled]
    simp
  have alone : joined? name word = none := by
    refine if_neg fun joined => whole ?_
    obtain ⟨rest, same⟩ := joined
    rw [spelled] at same
    simp only [String.toList_append, List.append_assoc] at same
    have same : body = name.toList ++ '=' :: rest := by simpa using same.symm
    simp [same]
  rw [written, alone]
  by_cases named : String.ofList body = name
  · rw [if_pos (same.mpr named), if_pos named]
  · rw [if_neg (mt same.mp named), if_neg named]
    rfl

include plain

theorem written_cons_of_joined {key value : List Char} (whole : '=' ∉ key)
    (parted : body = key ++ '=' :: value) :
    written name (word :: words) =
      (if String.ofList key = name then [String.ofList value] else []) ++ written name words := by
  have apart : word ≠ "--" ++ name := by
    rintro rfl
    have same : name.toList = body := by simpa using spelled
    exact plain (by simp [same, parted])
  rw [written, if_neg apart]
  by_cases named : String.ofList key = name
  · have start : ("--" ++ name ++ "=").toList ++ value = word.toList := by
      simp [spelled, parted, ← named]
    rw [if_pos named, joined?, if_pos ⟨value, start⟩, ← start, List.drop_left]
    rfl
  · have alone : joined? name word = none := by
      refine if_neg fun joined => named ?_
      obtain ⟨rest, same⟩ := joined
      have same : name.toList ++ '=' :: rest = key ++ '=' :: value := by
        simpa [spelled, parted] using same
      rw [← takeWhile_before whole, ← same, takeWhile_before plain, String.ofList_toList]
    rw [if_neg named, alone]
    rfl

end Words

theorem not_mem_takeWhile (body : List Char) : '=' ∉ body.takeWhile (· ≠ '=') := by
  intro member
  simpa using List.mem_takeWhile_imp member

theorem takeWhile_append_tail? (body : List Char) :
    body = body.takeWhile (· ≠ '=') ++
      ((body.dropWhile (· ≠ '=')).tail?.elim [] fun value => '=' :: value) := by
  have parted := (List.takeWhile_append_dropWhile (p := (· ≠ '=')) (l := body)).symm
  cases left : body.dropWhile (· ≠ '=') with
  | nil => rwa [left] at parted
  | cons c value =>
    have ends := List.head?_dropWhile_not (· ≠ '=') body
    rw [left] at ends
    obtain rfl : c = '=' := by simpa using ends
    rwa [left] at parted

/-! Options. -/

/-- Options of this name have values and are not given by a letter. -/
def IsLong (specs : List Spec) (name : String) : Prop :=
  ∀ spec ∈ specs, spec.long = name → spec.short = none ∧ spec.accepts.isSome

instance (specs : List Spec) (name : String) : Decidable (IsLong specs name) :=
  inferInstanceAs (Decidable (∀ spec ∈ specs, _ → _))

/-- The values of an option that were noted from some point on, all of which it allows. -/
structure Adds (specs : List Spec) (name : String) (given later : Given)
    (values : List String) : Prop where
  lookup : (later.lookup name).toList = (given.lookup name).toList ++ values
  allowed : ∀ value ∈ values, ∃ spec ∈ specs, spec.long = name ∧ spec.accepts.all (· value)

section Options

variable {specs : List Spec} {spec : Spec} {versioned : Bool} {name value : String}
  {given later last : Given} {values others words rest : List String}

theorem Adds.refl : Adds specs name given given [] where
  lookup := (List.append_nil _).symm
  allowed := List.forall_mem_nil _

theorem Adds.trans (first : Adds specs name given later values)
    (second : Adds specs name later last others) :
    Adds specs name given last (values ++ others) where
  lookup := by rw [second.lookup, first.lookup, List.append_assoc]
  allowed := List.forall_mem_append.mpr ⟨first.allowed, second.allowed⟩

theorem Adds.note (listed : spec ∈ specs) (noted : spec.note value given = .ok later) :
    Adds specs name given later (if spec.long = name then [value] else []) := by
  rw [Spec.note] at noted
  split at noted
  · contradiction
  · next free =>
    split at noted
    · next allowed =>
      cases noted
      by_cases same : spec.long = name
      · subst same
        rw [if_pos rfl]
        have none := Option.not_isSome_iff_eq_none.mp free
        exact ⟨by simp [none], List.forall_mem_singleton.mpr ⟨spec, listed, rfl, allowed⟩⟩
      · rw [if_neg same]
        have other : (name == spec.long) = false := beq_false_of_ne (Ne.symm same)
        exact ⟨by simp [List.lookup_cons, other], List.forall_mem_nil _⟩
    · contradiction

/-- Nothing was added for the name, and its value is not the one that is wanted. -/
def Progress.Spares (specs : List Spec) (name : String) (given : Given) : Progress → Prop
  | .done later => Adds specs name given later []
  | .wants spec later => spec ∈ specs ∧ spec.long ≠ name ∧ Adds specs name given later []

/-- What was added is what the word is written to give. A value that is wanted is still to come. -/
def Progress.Reads (specs : List Spec) (name word : String) (given : Given) : Progress → Prop
  | .done later => ∃ values, Adds specs name given later values ∧
      ∀ words, written name (word :: words) = values ++ written name words
  | .wants spec later => spec ∈ specs ∧ Adds specs name given later [] ∧
      ∀ words, written name (word :: words) =
        (if spec.long = name then words.head?.toList else []) ++ written name words

theorem letters_spare (named : IsLong specs name) {cs : List Char} {progress : Progress}
    (done : letters specs versioned given cs = .ok progress) :
    progress.Spares specs name given := by
  induction cs generalizing given with
  | nil =>
    cases done
    exact .refl
  | cons c cs ih =>
    rw [letters] at done
    split at done
    · contradiction
    split at done
    · contradiction
    split at done
    · contradiction
    next spec found =>
    have listed := List.mem_of_find?_eq_some found
    have other : spec.long ≠ name := by
      intro same
      have short := List.find?_some found
      rw [(named spec listed same).1] at short
      contradiction
    have adds {value : String} {later : Given} (noted : spec.note value given = .ok later) :
        Adds specs name given later [] := by
      have adds : Adds specs name given later _ := Adds.note listed noted
      rwa [if_neg other] at adds
    split at done
    · obtain ⟨noted, flag, done⟩ := bind_ok done
      have rest := ih done
      cases progress with
      | done later => exact (adds flag).trans rest
      | wants spec later => exact ⟨rest.1, rest.2.1, (adds flag).trans rest.2.2⟩
    · split at done
      · cases done
        exact ⟨listed, other, .refl⟩
      · obtain ⟨later, noted, rfl⟩ := map_ok done
        exact adds noted
      · obtain ⟨later, noted, rfl⟩ := map_ok done
        exact adds noted

theorem long_reads (named : IsLong specs name) (whole : '=' ∉ name.toList) {word : String}
    {body : List Char} (spelled : word.toList = '-' :: '-' :: body) {progress : Progress}
    (done : long specs versioned given body = .ok progress) :
    progress.Reads specs name word given := by
  have parted := takeWhile_append_tail? body
  have before := not_mem_takeWhile body
  rw [long] at done
  generalize body.takeWhile (· ≠ '=') = key at *
  generalize (body.dropWhile (· ≠ '=')).tail? = value? at *
  split at done
  · contradiction
  split at done
  · contradiction
  split at done
  · contradiction
  next spec found =>
  have listed := List.mem_of_find?_eq_some found
  have same := List.find?_some found
  have keyed : spec.long = String.ofList key := eq_of_beq same
  have adds {value : String} {later : Given} (noted : spec.note value given = .ok later) :
      Adds specs name given later (if String.ofList key = name then [value] else []) :=
    keyed ▸ Adds.note listed noted
  split at done
  · have flag : spec.accepts.isSome = false := by assumption
    obtain ⟨later, noted, rfl⟩ := map_ok done
    have apart : '=' ∉ body := by simpa [parted] using before
    have other : String.ofList key ≠ name := by
      intro same
      rw [(named spec listed (keyed.trans same)).2] at flag
      contradiction
    refine ⟨[], by simpa only [if_neg other] using adds noted, fun words => ?_⟩
    rw [written_cons_of_apart spelled apart, parted]
    simp [other]
  · contradiction
  · next value flag =>
    obtain ⟨later, noted, rfl⟩ := map_ok done
    exact ⟨_, adds noted, fun words => written_cons_of_joined whole spelled before parted⟩
  · cases done
    have apart : '=' ∉ body := by simpa [parted] using before
    refine ⟨listed, .refl, fun words => ?_⟩
    rw [written_cons_of_apart spelled apart, parted, keyed]
    simp

def begun (specs : List Spec) (versioned : Bool) (given : Given) (word : String) :
    Except Stop Progress :=
  match word.toList with
  | '-' :: '-' :: body => long specs versioned given body
  | word => letters specs versioned given word.tail

def resumed (specs : List Spec) (versioned : Bool) (words : List String) :
    Progress → Except Stop (Given × List String)
  | .done given => options specs versioned given words
  | .wants spec given =>
    match words with
    | [] => .error .usage
    | value :: words =>
      if isOption value then .error .usage
      else (spec.note value given).bind fun given => options specs versioned given words

theorem begun_of_long {word : String} {body : List Char}
    (spelled : word.toList = '-' :: '-' :: body) :
    begun specs versioned given word = long specs versioned given body := by
  rw [begun, spelled]
  rfl

theorem begun_of_letters {word : String} (other : ∀ body, word.toList ≠ '-' :: '-' :: body) :
    begun specs versioned given word = letters specs versioned given word.toList.tail := by
  rw [begun]
  split
  · next spelled => exact absurd spelled (other _)
  · rfl

theorem options_cons (word : String) :
    options specs versioned given (word :: words) =
      if word = "--" then if words.isEmpty then .ok (given, []) else .error .usage
      else if isOption word then
        (begun specs versioned given word).bind (resumed specs versioned words)
      else .ok (given, word :: words) := by
  rw [options]
  split
  · rfl
  split
  · dsimp only
    split
    · next spelled =>
      rw [begun_of_long spelled]
      rfl
    · next other =>
      rw [begun_of_letters other]
      rfl
  · rfl

theorem begun_reads (named : IsLong specs name) (whole : '=' ∉ name.toList) {word : String}
    {progress : Progress} (done : begun specs versioned given word = .ok progress) :
    progress.Reads specs name word given := by
  by_cases marked : ∃ body, word.toList = '-' :: '-' :: body
  · obtain ⟨body, spelled⟩ := marked
    rw [begun_of_long spelled] at done
    exact long_reads named whole spelled done
  · rw [begun_of_letters (not_exists.mp marked)] at done
    have plain : ¬['-', '-'] <+: word.toList := fun ⟨body, spelled⟩ => marked ⟨body, spelled.symm⟩
    have spares := letters_spare named done
    cases progress with
    | done later => exact ⟨[], spares, fun words => written_cons_of_plain plain⟩
    | wants spec later =>
      obtain ⟨listed, other, adds⟩ := spares
      refine ⟨listed, adds, fun words => ?_⟩
      rw [if_neg other, List.nil_append, written_cons_of_plain plain]

theorem options_adds (named : IsLong specs name) (whole : '=' ∉ name.toList) (some : name ≠ "")
    (done : options specs versioned given words = .ok (later, rest)) :
    ∃ values, Adds specs name given later values ∧
      written name words = values ++ written name rest := by
  -- The option and the value behind it are two words, so that the induction is on their number.
  induction count : words.length using Nat.strong_induction_on generalizing given words with
  | _ n ih =>
  cases words with
  | nil =>
    cases done
    exact ⟨[], .refl, rfl⟩
  | cons word words =>
    rw [options_cons] at done
    split at done
    · next ending =>
      subst ending
      split at done
      · next last =>
        cases done
        rw [List.isEmpty_iff.mp last]
        refine ⟨[], .refl, ?_⟩
        rw [written_cons_of_apart rfl List.not_mem_nil, if_neg (Ne.symm some)]
      · contradiction
    split at done
    · next option =>
      obtain ⟨progress, begun, done⟩ := bind_ok done
      have reads := begun_reads named whole begun
      cases progress with
      | done now =>
        obtain ⟨values, adds, wrote⟩ := reads
        have fewer : words.length < n := by
          rw [← count, List.length_cons]
          omega
        obtain ⟨others, more, rest⟩ := ih _ fewer done rfl
        exact ⟨_, adds.trans more, by rw [wrote, rest, List.append_assoc]⟩
      | wants spec now =>
        obtain ⟨listed, adds, wrote⟩ := reads
        rw [wrote]
        cases words with
        | nil => contradiction
        | cons value words =>
          rw [resumed] at done
          split at done
          · contradiction
          · next plain =>
            obtain ⟨noted, note, done⟩ := bind_ok done
            have fewer : words.length < n := by
              rw [← count, List.length_cons, List.length_cons]
              omega
            obtain ⟨others, more, rest⟩ := ih _ fewer done rfl
            refine ⟨_, (adds.trans (.note listed note)).trans more, ?_⟩
            rw [written_cons_of_isOption (eq_false_of_ne_true plain), rest,
              List.nil_append, List.append_assoc]
            rfl
    · next plain =>
      cases done
      exact ⟨[], .refl, rfl⟩

end Options

/-! Options that are given on purpose. -/

/-- The words in which a value is given for a name, if one is given. -/
inductive Puts (name : String) : Option String → List String → Prop where
  | nothing : Puts name none []
  | joined (value : String) : Puts name (some value) ["--" ++ name ++ "=" ++ value]
  | apart {value : String} (plain : isOption value = false) :
      Puts name (some value) ["--" ++ name, value]

section Putting

variable {specs : List Spec} {spec : Spec} {versioned : Bool} {name : String} {given : Given}
  {value : Option String} {flag words : List String}

section

variable (found : specs.find? (·.long == name) = some spec) (valued : spec.accepts.isSome)
  (whole : '=' ∉ name.toList)

include found valued whole

theorem long_joined (value : List Char) :
    long specs versioned given (name.toList ++ '=' :: value) =
      (spec.note (String.ofList value) given).map .done := by
  rw [long, takeWhile_before whole, dropWhile_before whole]
  simp [found, valued]

theorem long_apart (other : name ≠ "help" ∧ name ≠ "version") :
    long specs versioned given name.toList = .ok (.wants spec given) := by
  have all := all_ne_sign whole
  rw [long, List.takeWhile_eq_self_iff.mpr all, List.dropWhile_eq_nil_iff.mpr all]
  simp [found, valued, other]

theorem options_append (other : name ≠ "" ∧ name ≠ "help" ∧ name ≠ "version")
    (puts : Puts name value flag) :
    options specs versioned given (flag ++ words) =
      (value.elim (.ok given) (spec.note · given)).bind fun given =>
        options specs versioned given words := by
  cases puts with
  | nothing => rfl
  | joined value =>
    have spelled : ("--" ++ name ++ "=" ++ value).toList =
        '-' :: '-' :: (name.toList ++ '=' :: value.toList) := by simp
    have longer : "--" ++ name ++ "=" ++ value ≠ "--" := by
      intro same
      rw [same] at spelled
      simp at spelled
    rw [List.singleton_append, options_cons, if_neg longer,
      if_pos (isOption_of_dashes ⟨_, spelled.symm⟩), begun_of_long spelled,
      long_joined found valued whole, String.ofList_toList, Option.elim_some]
    cases spec.note value given <;> rfl
  | @apart value plain =>
    have spelled : ("--" ++ name).toList = '-' :: '-' :: name.toList := by simp
    have longer : "--" ++ name ≠ "--" := by simp [other.1]
    rw [List.cons_append, options_cons, if_neg longer,
      if_pos (isOption_of_dashes ⟨_, spelled.symm⟩), begun_of_long spelled,
      long_apart found valued whole other.2]
    show (if isOption value then _ else _) = _
    rw [plain]
    rfl

theorem options_append_of_new (other : name ≠ "" ∧ name ≠ "help" ∧ name ≠ "version")
    (new : given.lookup name = none) (puts : Puts name value flag) :
    options specs versioned given (flag ++ words) =
      if value.all fun value => spec.accepts.all (· value) then
        options specs versioned ((value.map (name, ·)).toList ++ given) words
      else .error .usage := by
  have same : spec.long = name := eq_of_beq (List.find?_some found :)
  rw [options_append found valued whole other puts]
  cases value with
  | none => rfl
  | some value =>
    rw [Option.elim_some, Spec.note, same, new, Option.all_some]
    by_cases allowed : spec.accepts.all (· value)
    · rw [if_pos allowed, if_pos allowed]
      rfl
    · rw [if_neg allowed, if_neg allowed]
      rfl

end

end Putting

end DeviceMatrix.Cli
