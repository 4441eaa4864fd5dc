import DeviceMatrix.Shell.Expansion
import DeviceMatrix.Shell.Lookup

/-! Simple commands before they are carried out: what their names mean, and their words. The name
decides how the words behind it are expanded. -/
namespace DeviceMatrix.Shell

inductive Meaning where
  | nothing
  | function (body : Command)
  | builtin (name : String)
  | program

structure Call where
  meaning : Meaning := .nothing
  /-- The fields in front of the name, which say how the command is looked for. -/
  manner : List (List Char) := []
  fields : List (List Char) := []
  words : List Word := []
  /-- Whether errors end the script, once that is known. -/
  special : Option Bool := none
  /-- Whether what is assigned in front goes when the command ends. -/
  temporary : Bool := false
  standard : Bool := false

namespace Call

def fill (capture : Capture) : List Word → Act (List (List Char) × List Word)
  | [] => return ([], [])
  | word :: words => do
    match ← Word.fields capture word with
    | [] => fill capture words
    | fields => return (fields, words)

/-- What a name means; where it is `plain`, it is no function. -/
def meaningOf (state : State) (plain : Bool) (name : List Char) : Meaning :=
  if name.contains '/' then .program
  else
    let name := String.ofList name
    match if plain then none else state.functions.lookup name with
    | some body => .function body
    | none => if (Builtin.kind? name).isSome then .builtin name else .program

/-- The fields that `command` has behind it, and the words that are left. It stands for itself if
it has no command or options of another kind. -/
structure Behind where
  options : List (List Char)
  fields : List (List Char)
  words : List Word
  standard : Bool := false
  itself : Bool := false

def behind (capture : Capture) : Nat → (seen fields : List (List Char)) → List Word →
    (standard : Bool) → Act Behind
  | 0, seen, fields, words, standard => return ⟨seen.reverse, fields, words, standard, false⟩
  | fuel + 1, seen, [], words, standard => do
    match ← fill capture words with
    | ([], words) => return ⟨[], seen.reverse, words, standard, true⟩
    | (fields, words) => behind capture fuel seen fields words standard
  | fuel + 1, seen, field :: fields, words, standard => do
    match field with
    | ['-', '-'] => do
      let (fields, words) ← if fields.isEmpty then fill capture words else pure (fields, words)
      return ⟨(field :: seen).reverse, fields, words, standard, fields.isEmpty⟩
    | '-' :: c :: rest =>
      if (c :: rest).all (· = 'p') then
        behind capture fuel (field :: seen) fields words true
      else return ⟨[], seen.reverse ++ field :: fields, words, standard, true⟩
    | _ => return ⟨seen.reverse, field :: fields, words, standard, false⟩

/-- Finds out what a command means. -/
def resolve (capture : Capture) : Nat → (plain : Bool) → Call → Act Call
  | 0, _, call => return call
  | fuel + 1, plain, call => do
    match call.fields with
    | [] => return call
    | name :: fields =>
      match meaningOf (← get) plain name with
      | .builtin name =>
        let own := Builtin.kind? name = some .special
        let found := { call with
          meaning := .builtin name
          special := call.special.or (some own)
          temporary := plain || !own }
        if name ≠ "command" then return found
        let next ← behind capture (call.words.length + fields.length + 2) [] fields call.words
          call.standard
        if next.itself then
          return { found with
            fields := call.fields.take 1 ++ next.fields
            words := next.words }
        resolve capture fuel true
          { found with
            manner := call.manner ++ call.fields.take 1 ++ next.options
            fields := next.fields
            words := next.words
            standard := next.standard }
      | meaning => return { call with meaning, temporary := true }

/-- A word behind the name of a command; assignments may be one field each. -/
def argument (capture : Capture) (declares : Bool) (word : Word) : Act (List (List Char)) := do
  match if declares then Word.assignment? word else none with
  | some (name, value) => do
    return [name.toList ++ '=' :: (← Word.text capture (.value true) value)]
  | none => Word.fields capture word

def arguments (capture : Capture) (declares : Bool) : List Word → Act (List (List Char))
  | [] => return []
  | word :: words => do
    let first ← argument capture declares word
    let others ← arguments capture declares words
    return first ++ others

def ofWords (capture : Capture) (words : List Word) : Act Call := do
  let (fields, words) ← fill capture words
  let call ← resolve capture (words.length + fields.length + 1) false { fields, words }
  let declares := match call.meaning with
    | .builtin name => Builtin.declares name
    | _ => false
  let others ← arguments capture declares call.words
  return { call with fields := call.fields ++ others, words := [] }

def isSpecial (call : Call) : Bool := call.special = some true

def keepsRedirections (call : Call) : Bool :=
  match call.meaning with
  | .builtin "exec" => call.fields.length ≤ 1
  | _ => false

def exports (call : Call) : Bool :=
  call.temporary || match call.meaning with
    | .builtin "exec" => 1 < call.fields.length
    | _ => false

def assignAll (capture : Capture) (call : Call) : List Word → Act (List (List Char))
  | [] => return []
  | word :: words => do
    match Word.assignment? word with
    | none => assignAll capture call words
    | some (name, value) => do
      let value ← Word.text capture (.value true) value
      Act.assign name value call.exports
      let others ← assignAll capture call words
      return (name.toList ++ '=' :: value) :: others

def kept (call : Call) (state : State) (assignments : List Word) :
    List (String × Option Variable) :=
  if call.temporary then
    (assignments.filterMap Word.assignment?).map fun (name, _) => (name, state.held? name)
  else []

/-- Shows a command before it is carried out, on the diagnostic output as it was before. -/
def trace (capture : Capture) (call : Call) (assigned : List (List Char))
    (diagnostic? : Option Nat) : Act Unit := do
  let state ← get
  if state.has 'x' && !state.tracing then
    set { state with tracing := true }
    let front ← Word.text capture .nowhere (Script.template ((state.value? "PS4").getD []))
    modify ({ · with tracing := false })
    let text := front ++ [' '].intercalate (assigned ++ call.manner ++ call.fields) ++ ['\n']
    let state ← get
    let world? := diagnostic?.bind fun number =>
      state.world.write? number ⟨state.now, state.process, text⟩
    set { state with world := world?.getD state.world }

end Call
end DeviceMatrix.Shell
