import DeviceMatrix.Shell.Builtin.Basic
import DeviceMatrix.Shell.Display
import DeviceMatrix.Shell.Printf

/-! Small programs that are no part of the shell. Their status is the result. -/
namespace DeviceMatrix.Shell

abbrev Program := (words : List (List Char)) → Act Nat

namespace Program

def complain (text : List Char) : Act Unit := discard (Act.print 2 (text ++ ['\n']))

def put (name : String) (text : List Char) : Act Nat := do
  if text.isEmpty then return 0
  if ← Act.print 1 text then return 0
  let state ← get
  let reason := match state.endpoint? 1 with
    | some (.device .full) => "No space left on device"
    | _ => "Bad file descriptor"
  complain (name.toList ++ ": write error: ".toList ++ reason.toList)
  return 1

def isEchoOption : List Char → Bool
  | '-' :: c :: rest => (c :: rest).all fun c => c = 'n' ∨ c = 'e' ∨ c = 'E'
  | _ => false

def hexadecimal (s : List Char) : Char × List Char :=
  let digits := (s.take 2).takeWhile fun c => (Integer.digitIn? 16 c).isSome
  (Char.ofNat (Integer.magnitude 16 digits).1, s.drop digits.length)

/-- What stands behind a backslash, and what follows; nothing where printing ends. -/
def unescape? (s : List Char) : Option (List Char × List Char) :=
  match s with
  | 'c' :: _ => none
  | 'x' :: rest =>
    if rest.head?.any fun c => (Integer.digitIn? 16 c).isSome then
      let (c, rest) := hexadecimal rest
      some ([c], rest)
    else some (['\\', 'x'], rest)
  | '0' :: rest =>
    let (c, rest) := Escape.octal rest
    some ([c], rest)
  | s =>
    let (c, rest) := Escape.unescape s
    some ([c], rest)

def expand : Nat → List Char → List Char × Bool
  | 0, _ => ([], true)
  | _, [] => ([], true)
  | fuel + 1, '\\' :: rest =>
    match unescape? rest with
    | none => ([], false)
    | some (text, rest) =>
      let (printed, more) := expand fuel rest
      (text ++ printed, more)
  | fuel + 1, c :: rest =>
    let (printed, more) := expand fuel rest
    (c :: printed, more)

def echo : Program := fun words =>
  let options := words.takeWhile isEchoOption
  let letters := options.flatten
  let text := [' '].intercalate (words.drop options.length)
  let escapes := letters.reverse.find? fun c => c = 'e' ∨ c = 'E'
  let (printed, more) :=
    if escapes = some 'e' then expand (text.length + 1) text else (text, true)
  put "echo" (printed ++ if letters.contains 'n' || !more then [] else ['\n'])

def unit? : List Char → Option Nat
  | [] | ['s'] => some 1
  | ['m'] => some 60
  | ['h'] => some 3600
  | ['d'] => some 86400
  | _ => none

/-- A time in microseconds: a number, perhaps with a unit. One without end is none. -/
def duration? (word : List Char) : Option (Option Nat) :=
  match Real.parse? word with
  | none => none
  | some found =>
    match unit? found.rest, found.value with
    | some unit, ⟨false, .finite units exponent⟩ =>
      let (numerator, denominator) := Real.fraction units exponent
      some (some ((numerator * unit * 1000000 + denominator - 1) / denominator))
    | some _, ⟨false, .infinite⟩ => some none
    | some _, ⟨true, .finite 0 _⟩ => some (some 0)
    | _, _ => none

def hint : List Char := "Try 'sleep --help' for more information.".toList

/-- What is wrong with a word that looks like an option, for a program that has none. Behind two
dashes no word does. -/
def misplacedOption? : List (List Char) → Option (List Char)
  | [] | ['-', '-'] :: _ => none
  | ('-' :: '-' :: name) :: _ =>
    some ("unrecognized option '--".toList ++ name ++ ['\x27'])
  | ('-' :: c :: _) :: _ => some ("invalid option -- '".toList ++ [c, '\x27'])
  | _ :: words => misplacedOption? words

def withoutDashes (words : List (List Char)) : List (List Char) :=
  let front := words.takeWhile (· ≠ ['-', '-'])
  front ++ (words.drop front.length).tail

def sleep : Program := fun words => do
  if let some text := misplacedOption? words then
    complain ("sleep: ".toList ++ text)
    complain hint
    return 1
  let words := withoutDashes words
  if words.isEmpty then
    complain "sleep: missing operand".toList
    complain hint
    return 1
  let wrong := words.filter fun word => (duration? word).isNone
  if wrong.isEmpty then
    let state ← get
    let span := (words.filterMap duration?).foldl
      (fun total time => total + time.getD state.world.deadline) 0
    Act.wait (state.now + span)
    return 0
  else
    wrong.forM fun word =>
      complain ("sleep: invalid time interval '".toList ++ word ++ ['\x27'])
    complain hint
    return 1

def remainder (descriptor : Nat) :
    Act (Except Host.IoError (List Char) × Option Host.Location) := do
  let state ← get
  match state.descriptors.lookup descriptor, state.endpoint? descriptor with
  | some file, some endpoint =>
    match endpoint with
    | .directory => return (.error .isDirectory, none)
    | .stream _ | .file _ _ _ false _ => return (.error .badDescriptor, none)
    | endpoint => do
      let (world, text, time) := state.world.drain file
      modify ({ · with world })
      Act.wait (time.getD world.deadline)
      match endpoint with
      | .file location _ _ _ _ => return (.ok text, some location)
      | _ => return (.ok text, none)
  | _, _ => return (.error .badDescriptor, none)

def contentOf (word : List Char) :
    Act (Except Host.IoError (List Char) × Option Host.Location) := do
  let state ← get
  let path := toText word
  match state.world.disk.find state.directory path with
  | .ok (.device (.opened source)) =>
    match state.endpoint? source with
    | none => return (.error .notFound, none)
    | some (.file location _ _ _ _) =>
      return (.ok (ofBytes (state.world.content location)), some location)
    | some _ => remainder source
  | .ok (.device .zero) | .ok (.device .full) => do
    Act.wait state.world.deadline
    return (.ok [], none)
  | _ =>
    return ((state.world.disk.read state.directory path).map ofBytes,
      (state.world.disk.locate state.directory path).toOption)

def cat : Program := fun words => do
  match Display.ofWords {} words with
  | .error text => do
    complain ("cat: ".toList ++ text)
    complain "Try 'cat --help' for more information.".toList
    return 1
  | .ok (display, words) => do
    let output? := match (← get).endpoint? 1 with
      | some (.file location _ _ _ _) => some location
      | _ => none
    let copy (status : Nat) (place : Display.Place) (word : List Char) :
        Act (Nat × Display.Place) := do
      match ← if word = ['-'] then remainder 0 else contentOf word with
      | (.error error, _) => do
        complain ("cat: ".toList ++ word ++ ": ".toList ++ error.text.1.toList)
        return (1, place)
      | (.ok text, location?) =>
        if location?.isSome && location? = output? && !text.isEmpty then
          complain ("cat: ".toList ++ word ++ ": input file is output file".toList)
          return (1, place)
        else
          let (shown, place) := display.text place text
          return (max status (← put "cat" shown), place)
    let words := if words.isEmpty then [['-']] else words
    let (status, _) ← words.foldlM (fun (status, place) word => copy status place word)
      (0, ({} : Display.Place))
    if words.contains ['-'] && ((← get).descriptors.lookup 0).isNone then
      complain "cat: closing standard input: Bad file descriptor".toList
      return 1
    return status

def printf : Program := fun words => do
  match words with
  | [] => do
    complain "printf: missing operand".toList
    complain "Try 'printf --help' for more information.".toList
    return 1
  | format :: words => do
    let result := Printf.run format words
    result.complaints.forM fun text => complain ("printf: ".toList ++ text)
    let status ← put "printf" result.text
    return if result.complaints.isEmpty then status else 1

def find? (name : String) : Option Program :=
  match name with
  | "cat" => some cat
  | "echo" => some echo
  | "false" => some fun _ => return 1
  | "printf" => some printf
  | "sleep" => some sleep
  | "true" => some fun _ => return 0
  | _ => none

end Program
end DeviceMatrix.Shell
