/-! Options on a command line. An option has a long name, and may have a letter. Its value is
the next word, or stands in the same word, behind an equals sign or right behind the letter;
letters without values can share a word. No option may be given twice. -/
namespace DeviceMatrix.Cli

structure Spec where
  long : String
  short : Option Char := none
  /-- Which values are allowed, for an option that takes one. -/
  accepts : Option (String → Bool) := none

inductive Stop where
  | usage
  | help
  | version
  deriving DecidableEq, Repr

abbrev Given := List (String × String)

inductive Progress where
  | done (given : Given)
  /-- The value of an option is still to come. -/
  | wants (spec : Spec) (given : Given)

namespace Spec

/-- Notes an option. Its value, which flags do not have, must be allowed. -/
def note (spec : Spec) (value : String) (given : Given) : Except Stop Given :=
  if (given.lookup spec.long).isSome then .error .usage
  else if spec.accepts.all (· value) then .ok ((spec.long, value) :: given)
  else .error .usage

end Spec

def isOption (word : String) : Bool := word.startsWith "-" && word != "-"

/-- The letters of a word. `versioned` is set where the version can be asked for. -/
def letters (specs : List Spec) (versioned : Bool) (given : Given) :
    List Char → Except Stop Progress
  | [] => .ok (.done given)
  | c :: rest =>
    if c = 'h' then .error .help
    else if c = 'V' && versioned then .error .version
    else match specs.find? (·.short == some c) with
      | none => .error .usage
      | some spec =>
        if spec.accepts.isNone then do
          let given ← spec.note "" given
          letters specs versioned given rest
        else match rest with
          | [] => .ok (.wants spec given)
          | '=' :: value => (spec.note (String.ofList value) given).map .done
          | value => (spec.note (String.ofList value) given).map .done

def long (specs : List Spec) (versioned : Bool) (given : Given) (body : List Char) :
    Except Stop Progress :=
  let name := String.ofList (body.takeWhile (· ≠ '='))
  let value? := (body.dropWhile (· ≠ '=')).tail?
  if name = "help" ∧ value?.isNone then .error .help
  else if name = "version" ∧ versioned ∧ value?.isNone then .error .version
  else match specs.find? (·.long == name) with
    | none => .error .usage
    | some spec =>
      match spec.accepts.isSome, value? with
      | false, none => (spec.note "" given).map .done
      | false, some _ => .error .usage
      | true, some value => (spec.note (String.ofList value) given).map .done
      | true, none => .ok (.wants spec given)

/-- Takes options up to the first word that is none. Nothing may follow two dashes. -/
def options (specs : List Spec) (versioned : Bool) (given : Given) :
    List String → Except Stop (Given × List String)
  | [] => .ok (given, [])
  | word :: rest =>
    if word = "--" then if rest.isEmpty then .ok (given, []) else .error .usage
    else if isOption word then do
      let progress ← match word.toList with
        | '-' :: '-' :: body => long specs versioned given body
        | word => letters specs versioned given word.tail
      match progress with
      | .done given => options specs versioned given rest
      | .wants spec given =>
        match rest with
        | [] => .error .usage
        | value :: rest =>
          if isOption value then .error .usage
          else do
            let given ← spec.note value given
            options specs versioned given rest
    else .ok (given, word :: rest)

end DeviceMatrix.Cli
