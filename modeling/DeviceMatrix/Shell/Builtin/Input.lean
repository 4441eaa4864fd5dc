import DeviceMatrix.Shell.Builtin.Basic
import DeviceMatrix.Shell.Field

/-! Commands that give variables what they read: a line of the input, or the next option among some
words. -/
namespace DeviceMatrix.Shell

namespace Builtin

open Act

/-- The part of a line behind backslashes is not cut into fields. -/
def unescaped : List Char → List Stretch
  | [] => []
  | '\\' :: c :: rest => ⟨.never, [.char c true]⟩ :: unescaped rest
  | ['\\'] => []
  | c :: rest =>
    match unescaped rest with
    | ⟨.separators, pieces⟩ :: others => ⟨.separators, .char c false :: pieces⟩ :: others
    | others => ⟨.separators, [.char c false]⟩ :: others

/-- Takes a line of the input, and more where a backslash joins them; says whether it ended. -/
def takeLine (raw : Bool) : Nat → Act (List Char × Bool)
  | 0 => return ([], false)
  | fuel + 1 => do
    let state ← get
    match (state.descriptors.lookup 0).bind state.world.takeLine? with
    | none => return ([], false)
    | some (world, line) => do
      modify ({ · with world })
      wait (line.time.getD world.deadline)
      let text := withoutZeros line.text
      let joins := !raw && (text.reverse.takeWhile (· = '\\')).length % 2 = 1
      if joins && line.complete then
        let (more, complete) ← takeLine raw fuel
        return (text.dropLast ++ more, complete)
      return (text, line.complete)

def assignFields : List (List Char) → List Field → Act Unit
  | [], _ => return
  | name :: names, fields => do
    assign (String.ofList name) (Field.text (fields.headD []))
    assignFields names fields.tail

def readLine : Builtin := fun words => do
  let (options, names) ← options ['p', 'r'] ['p'] words.length words
  if names.isEmpty then fail "arg count".toList
  let raw := options.any (·.1 = 'r')
  let (text, complete) ← takeLine raw 1000000
  let stretches := if raw then [⟨.separators, Field.ofText false text⟩] else unescaped text
  let fields := Field.split (← get).separators (some names.length) stretches
  assignFields names fields
  return if complete then 0 else 1

structure Found where
  letter : Char
  value : Option (List Char)
  next : Nat
  place : Option Nat
  ended : Bool := false
  complaint : Option String := none

/-- Whether a letter is among those of a text, and whether it takes a value. Colons stand behind
letters that do. -/
def known? (letter : Char) : List Char → Option Bool
  | [] => none
  | c :: ':' :: rest => if c = letter then some true else known? letter rest
  | c :: rest => if c = letter then some false else known? letter rest

def findOption (optionLetters : List Char) (words : List (List Char)) (progress : Progress) :
    Found :=
  let silent := optionLetters.head? = some ':'
  let under : List Char := match progress.place with
    | some place =>
      if progress.index ≤ 1 then [] else (words.getD (progress.index - 2) []).drop place
    | none => []
  let ended (next : Nat) : Found := ⟨'?', none, next, none, true, none⟩
  let letter (text : List Char) (next : Nat) : Found :=
    match text with
    | [] => ended next
    | c :: rest =>
      let place := (words.getD (next - 2) []).length - rest.length
      match known? c optionLetters with
      | none =>
        if silent then ⟨'?', some [c], next, some place, false, none⟩
        else ⟨'?', none, next, some place, false, some ("Illegal option -" ++ String.ofList [c])⟩
      | some false => ⟨c, some [], next, some place, false, none⟩
      | some true =>
        if !rest.isEmpty then ⟨c, some rest, next, none, false, none⟩
        else match words[next - 1]? with
          | some value => ⟨c, some value, next + 1, none, false, none⟩
          | none =>
            if silent then ⟨':', some [c], next, some place, false, none⟩
            else ⟨'?', none, next, some place, false,
              some ("No arg for -" ++ String.ofList [c] ++ " option")⟩
  if under.isEmpty then
    match words[progress.index - 1]? with
    | some ['-', '-'] => ended (progress.index + 1)
    | some ('-' :: c :: rest) => letter (c :: rest) (progress.index + 1)
    | _ => ended progress.index
  else letter under progress.index

def nextOption : Builtin := fun words => do
  match words with
  | optionLetters :: name :: rest => do
    let state ← get
    let words := if rest.isEmpty then state.arguments else rest
    let progress := if state.progress.index > words.length + 1 then {} else state.progress
    let found := findOption optionLetters words progress
    if let some complaint := found.complaint then
      let _ ← print 2 (complaint.toList ++ ['\n'])
    match found.value with
    | some value => assign "OPTARG" value
    | none => unless found.ended do modify (·.remove "OPTARG")
    modify fun state => state.assign "OPTIND" (Decimal.digits found.next) false
    assign (String.ofList name) [found.letter]
    modify ({ · with progress := ⟨found.next, found.place⟩ })
    return if found.ended then 1 else 0
  | _ => fail "Usage: getopts optstring var [arg...]".toList

end Builtin
end DeviceMatrix.Shell
