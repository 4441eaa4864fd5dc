import DeviceMatrix.Shell.Builtin.Basic

/-! Commands that leave what is under way, and those that change arguments, options, variables and
aliases. -/
namespace DeviceMatrix.Shell

namespace Builtin

open Act

def exit : Builtin := fun words => do
  let state ← get
  let status ← match words with
    | [] => pure (state.trapped.getD state.status)
    | word :: _ => number word
  modify ({ · with status })
  throw .exit

def giveBack : Builtin := fun words => do
  match words with
  | [] => throw (.returned false)
  | word :: _ => do
    let status ← number word
    modify ({ · with status })
    throw (.returned true)

def depth? (words : List (List Char)) : Act (Option Nat) := do
  let count ← match words with
    | [] => pure 1
    | word :: _ => do
      let count ← number word
      if count = 0 then fail ("Illegal number: ".toList ++ word)
      pure count
  let depth := min count (← get).loops
  return if depth = 0 then none else some depth

def leaveLoop : Builtin := fun words => do
  if let some depth ← depth? words then
    modify ({ · with status := 0 })
    throw (.broken depth)
  return 0

def continueLoop : Builtin := fun words => do
  if let some depth ← depth? words then
    modify ({ · with status := 0 })
    throw (.continued depth)
  return 0

/-! Arguments, options and variables. -/

def shift : Builtin := fun words => do
  let count ← match words with
    | [] => pure 1
    | word :: _ => number word
  let state ← get
  if state.arguments.length < count then fail "can't shift that many".toList
  set { state with arguments := state.arguments.drop count }
  return 0

def setOption (letter : Char) (on : Bool) : Act Unit := do
  if (optionTable.map (·.2)).contains letter && letter.isAlpha then
    if letter = 'm' && on then complain "can't access tty; job control turned off".toList
    else modify (·.set letter on)
  else fail ("Illegal option -".toList ++ [letter])

def setNamedOption (name : List Char) (on : Bool) : Act Unit := do
  match optionTable.lookup (String.ofList name) with
  | some letter =>
    if letter.isAlpha then setOption letter on else modify (·.set letter on)
  | none => fail ("Illegal option -o ".toList ++ name)

/-- The options as they are set; as commands that set them where `on` is not. -/
def shownSettings (state : State) (on : Bool) : List (List Char) :=
  if on then
    "Current option settings".toList :: optionTable.map fun (name, letter) =>
      name.toList ++ List.replicate (16 - name.length) ' ' ++
        (if state.has letter then "on" else "off").toList
  else optionTable.map fun (name, letter) =>
    (if state.has letter then "set -o " else "set +o ").toList ++ name.toList

def setLetters (on : Bool) : List Char → List (List Char) → Act (List (List Char))
  | [], words => return words
  | c :: rest, words => do
    if c = 'o' then
      match words with
      | [] => do
        let _ ← outputLines (shownSettings (← get) on)
        setLetters on rest []
      | name :: words => do
        setNamedOption name on
        setLetters on rest words
    else do
      setOption c on
      setLetters on rest words

/-- Sets the options in front of some words; what is left are arguments, if anything is. -/
def setOptions : Nat → List (List Char) → Act (Option (List (List Char)))
  | 0, words => return some words
  | fuel + 1, words =>
    match words with
    | [] => return none
    | ['-'] :: rest => do
      modify fun state => (state.set 'x' false).set 'v' false
      return if rest.isEmpty then none else some rest
    | ['-', '-'] :: rest => return some rest
    | ('-' :: flags) :: rest => do setOptions fuel (← setLetters true flags rest)
    | ('+' :: flags) :: rest => do setOptions fuel (← setLetters false flags rest)
    | words => return some words

def shownVariables (front : List Char) (test : Variable → Bool) (state : State) :
    List (List Char) :=
  let picked := state.bindings.filter fun (_, entry) => test entry
  (picked.mergeSort fun a b => a.1 ≤ b.1).map fun (name, entry) =>
    front ++ name.toList ++ match entry.value with
      | some value => '=' :: singleQuoted value
      | none => []

def setting : Builtin := fun words => do
  if words.isEmpty then outputLines (shownVariables [] (·.value.isSome) (← get))
  else
    if let some arguments ← setOptions (words.length + 1) words then
      modify ({ · with arguments, progress := {} })
    return 0

def binding (word : List Char) : String × Option (List Char) :=
  let name := word.takeWhile (· ≠ '=')
  (String.ofList name, if name.length < word.length then some (word.drop (name.length + 1))
    else none)

def declare (name : String) (mark : Variable → Variable) (marked : Variable → Bool) : Builtin :=
  fun words => do
    let (options, words) ← options ['p'] [] words.length words
    if words.isEmpty || !options.isEmpty then
      outputLines (shownVariables (name.toList ++ [' ']) marked (← get))
    else
      words.forM fun word => do
        let (name, value?) := binding word
        match value? with
        | some value => assign name value
        | none => unless isName name.toList do fail (name.toList ++ ": bad variable name".toList)
        modify fun state =>
          state.put name (mark ((state.held? name).getD ⟨none, false, false⟩))
      return 0

/-- Keeps what a variable is, so that the function under way puts it back. -/
def keep (name : String) : Act Unit := modify fun state =>
  match state.frames with
  | frame :: frames =>
    { state with frames :=
        { frame with bindings := (name, state.held? name) :: frame.bindings } :: frames }
  | [] => state

def declareLocal : Builtin := fun words => do
  if (← get).frames.isEmpty then fail "not in a function".toList
  words.forM fun word => do
    if word = ['-'] then
      modify fun state => match state.frames with
        | frame :: frames =>
          { state with frames :=
              { frame with options := frame.options.or (some state.options) } :: frames }
        | [] => state
    else
      let (name, value?) := binding word
      keep name
      match value? with
      | some value => assign name value
      | none => do
        unless isName name.toList do fail (name.toList ++ ": bad variable name".toList)
        if ((← get).held? name).isNone then modify (·.put name ⟨none, false, false⟩)
  return 0

def unset : Builtin := fun words => do
  let (options, words) ← options ['v', 'f'] [] words.length words
  words.forM fun word => do
    let name := String.ofList word
    if (options.getLast?.map (·.1)) = some 'f' then
      modify fun state =>
        { state with functions := state.functions.filter (·.1 ≠ name) }
    else
      unless isName word do fail (word ++ ": bad variable name".toList)
      if ((← get).held? name).any (·.fixed) then fail (word ++ ": is read only".toList)
      modify (·.remove name)
  return 0

def aliasPlace (name : String) : Nat :=
  let bytes := (ofText name).map Char.toNat
  (16 * bytes.headD 0 + bytes.foldl (· + ·) 0) % 39

def aliasOf (word : List Char) : String × Option (List Char) :=
  let name := word.take 1 ++ word.tail.takeWhile (· ≠ '=')
  (String.ofList name, if name.length < word.length then some (word.drop (name.length + 1))
    else none)

def setAliases : Builtin := fun words => do
  let state ← get
  if words.isEmpty then
    let inOrder := state.aliases.mergeSort fun a b => aliasPlace a.1 ≤ aliasPlace b.1
    outputLines (inOrder.map fun (name, text) => name.toList ++ ['='] ++ singleQuoted text)
  else
    words.foldlM (fun status word => do
      let (name, text?) := aliasOf word
      match text? with
      | some text => do
        modify fun state =>
          let known := state.aliases.any (·.1 = name)
          { state with aliases :=
              if known then state.aliases.map fun (other, old) =>
                (other, if other = name then text else old)
              else state.aliases ++ [(name, text)] }
        return status
      | none =>
        match (← get).aliases.lookup name with
        | some text => do
          let _ ← outputLines [name.toList ++ ['='] ++ singleQuoted text]
          return status
        | none => do
          let _ ← print 2 ("alias: ".toList ++ word ++ " not found\n".toList)
          return 1) 0

def unalias : Builtin := fun words => do
  let (options, words) ← options ['a'] [] words.length words
  unless options.isEmpty do modify ({ · with aliases := [] })
  words.foldlM (fun status word => do
    let name := String.ofList word
    if ((← get).aliases.lookup name).isSome then do
      modify fun state => { state with aliases := state.aliases.filter (·.1 ≠ name) }
      return status
    else do
      let _ ← print 2 ("unalias: ".toList ++ word ++ " not found\n".toList)
      return 1) 0

end Builtin
end DeviceMatrix.Shell
