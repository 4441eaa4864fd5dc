import DeviceMatrix.Shell.Arithmetic
import DeviceMatrix.Shell.Field

/-! What words stand for: parameters, what commands print, arithmetic and home directories are
replaced. Commands are run through a function. -/
namespace DeviceMatrix.Shell

/-- Where a tilde stands for a home directory. -/
inductive Tildes where
  | nowhere
  | front
  /-- Behind a colon, and at the start of the value. -/
  | value (front : Bool)
  deriving DecidableEq, Repr

namespace Tildes

def behind : Tildes → Tildes
  | value _ => value false
  | _ => nowhere

/-- The home directory of a user; that of the one who runs the script has no name. -/
def home? (state : State) (user : List Char) : Option (List Char) :=
  if user.isEmpty then state.value? "HOME"
  else if user = "root".toList then some "/root".toList
  else none

/-- The home directory that a tilde in front of a text stands for, and what follows it. The name
must not go on behind the text, which is the `last` of its word or not. -/
def replaced? (state : State) (colons last : Bool) (text : List Char) :
    Option (List Char × List Char) :=
  let user := text.takeWhile fun c => c ≠ '/' && !(colons && c = ':')
  let rest := text.drop user.length
  if rest.isEmpty && !last then none
  else (home? state user).map (·, rest)

def stretches (state : State) (cut : Cut) (colons last : Bool) :
    Nat → (start : Bool) → List Char → List Stretch
  | 0, _, _ => []
  | fuel + 1, start, text =>
    match start, text with
    | true, '~' :: after =>
      match replaced? state colons last after with
      | some (home, rest) =>
        ⟨.never, Field.ofText true home⟩ :: stretches state cut colons last fuel false rest
      | none =>
        ⟨cut, Field.ofText false ['~']⟩ :: stretches state cut colons last fuel false after
    | _, [] => []
    | _, text =>
      let stretch := if colons then text.takeWhile (· ≠ ':') else text
      match text.drop stretch.length with
      | [] => [⟨cut, Field.ofText false stretch⟩]
      | colon :: rest =>
        ⟨cut, Field.ofText false (stretch ++ [colon])⟩ ::
          stretches state cut colons last fuel true rest

def plain (tildes : Tildes) (state : State) (cut : Cut) (last : Bool) (text : List Char) :
    List Stretch :=
  match tildes with
  | nowhere => [⟨cut, Field.ofText false text⟩]
  | front => stretches state cut false last (2 * text.length + 2) true text
  | value start => stretches state cut true last (2 * text.length + 2) start text

end Tildes

/-- How words are expanded: what runs the commands in them. -/
abbrev Capture := List Command → Act (List Char)

namespace Expansion

/-- The arguments as one text. Where they become fields, the character zero keeps them apart. -/
def joined (state : State) (full quoted apart : Bool) : List Char :=
  let zero := (quoted && apart && full) || (!quoted && full && (state.value? "IFS").isSome)
  let separator :=
    if zero then ['\x00']
    else if !quoted && full then [' ']
    else match state.value? "IFS" with
      | some separators => separators.take 1
      | none => [' ']
  separator.intercalate state.arguments

def lookup? (state : State) (full quoted : Bool) : Parameter → Option (List Char)
  | .named name => state.value? name
  | .position 0 => some state.name
  | .position (index + 1) => state.arguments[index]?
  | .arguments => some (joined state full quoted true)
  | .joined => some (joined state full quoted false)
  | .count => some (Decimal.digits state.arguments.length)
  | .status => some (Decimal.digits state.status)
  | .process => some (Decimal.digits state.leader)
  | .options => some state.shownOptions
  | .background => state.background.map Decimal.digits

def shown (state : State) (quoted : Bool) (which : Parameter) (text : List Char) : Stretch :=
  let cut : Cut :=
    if !quoted then .separators
    else if which = .arguments ∧ !state.arguments.isEmpty then .arguments
    else .never
  ⟨cut, Field.ofText quoted text⟩

def found (quoted : Bool) (text : List Char) : Stretch :=
  ⟨if quoted then .never else .separators, Field.ofText quoted text⟩

def missing {α : Type} (which : Parameter) (text : List Char) : Act α :=
  Act.fail (which.spelling ++ ": ".toList ++ text)

def require (which : Parameter) (text? : Option (List Char)) : Act Unit := do
  if text?.isNone && (← get).has 'u' then missing which "parameter not set".toList

def calculate (expression : List Char) : Act (List Char) := do
  let state ← get
  match Arithmetic.evaluate state.value? expression with
  | .ok (value, assigned) =>
    assigned.reverse.forM fun (name, value) => Act.assign name (Decimal.signed value)
    return Decimal.signed value
  | .error (.wording text) =>
    Act.fail ("arithmetic expression: ".toList ++ text.toList ++ ": \"".toList ++ expression ++
      ['"'])
  | .error (.notNumber text) => Act.fail ("Illegal number: ".toList ++ text)
  | .error .excessive => throw (.killed Host.Signal.arithmetic)

def pieces (word : List Stretch) : Field := word.flatMap (·.pieces)

def isMissing (orEmpty : Bool) : Option (List Char) → Bool
  | none => true
  | some text => orEmpty && text.isEmpty

mutual

/-- A word replaced part by part. Where it is to be `full`, it becomes fields; where it
`breaks`, plain text is cut like the texts of parameters. -/
def parts (capture : Capture) (full breaks : Bool) (tildes : Tildes) :
    List Part → Act (List Stretch)
  | [] => return []
  | part :: rest => do
    let first ← one capture full breaks tildes rest.isEmpty part
    let others ← parts capture full breaks tildes.behind rest
    return first ++ others

def one (capture : Capture) (full breaks : Bool) (tildes : Tildes) (last : Bool) :
    Part → Act (List Stretch)
  | .plain text =>
    return tildes.plain (← get) (if breaks then .separators else .never) last text
  | .quoted text => return [⟨.never, if text.isEmpty then [.quotes] else Field.ofText true text⟩]
  | .unreadable => Act.fail "Bad substitution".toList
  | .printed commands quoted => return [found quoted (← capture commands)]
  | .arithmetic expression quoted => do
    let expression := Field.text (pieces (← parts capture false false .nowhere expression))
    return [found quoted (← calculate expression)]
  | .parameter which .value quoted => do
    let state ← get
    let text? := lookup? state full quoted which
    require which text?
    return text?.toList.map (shown state quoted which)
  | .parameter which (.extended word) quoted => do
    let state ← get
    let text? := lookup? state full quoted which
    require which text?
    let others ← parts capture full breaks tildes.behind word
    return text?.toList.map (shown state quoted which) ++ others
  | .parameter which .size quoted => do
    let text? := lookup? (← get) full quoted which
    require which text?
    return [found quoted (Decimal.digits (text?.getD []).length)]
  | .parameter which (.fallback orEmpty kept word) quoted => do
    let state ← get
    let text? := lookup? state full quoted which
    if isMissing orEmpty text? then
      if kept then
        let value := Field.text (pieces (← parts capture false false .front word))
        Act.assign (String.ofList which.spelling) value
        let state ← get
        return (lookup? state full quoted which).toList.map (shown state quoted which)
      else parts capture full (!quoted) .front word
    else return text?.toList.map (shown state quoted which)
  | .parameter which (.instead orEmpty word) quoted => do
    if isMissing orEmpty (lookup? (← get) full quoted which) then return []
    else parts capture full (!quoted) .front word
  | .parameter which (.required orEmpty word) quoted => do
    let state ← get
    let text? := lookup? state full quoted which
    if isMissing orEmpty text? then
      let text := Field.text (pieces (← parts capture false false .front word))
      missing which
        (if word.isEmpty then
          ("parameter not set" ++ if orEmpty then " or null" else "").toList
        else text)
    else return text?.toList.map (shown state quoted which)
  | .parameter which (.trimmed back longest pattern) quoted => do
    let state ← get
    match lookup? state full quoted which with
    | none => do
      require which none
      return []
    | some text => do
      let pattern ← parts capture false false .front pattern
      let pattern := Wild.pattern (Field.marked (pieces pattern))
      let trim := if back then Wild.dropBack else Wild.dropFront
      return [shown state quoted which (trim longest pattern text)]

end

end Expansion

namespace Word

def fields (capture : Capture) (word : Word) : Act (List (List Char)) := do
  let stretches ← Expansion.parts capture true false .front word
  let state ← get
  return (Field.split state.separators none stretches).flatMap (·.results state)

def allFields (capture : Capture) : List Word → Act (List (List Char))
  | [] => return []
  | word :: words => do
    let first ← fields capture word
    let others ← allFields capture words
    return first ++ others

def text (capture : Capture) (tildes : Tildes) (word : Word) : Act (List Char) := do
  return Field.text (Expansion.pieces (← Expansion.parts capture false false tildes word))

def pattern (capture : Capture) (word : Word) : Act (List Wild) := do
  let stretches ← Expansion.parts capture false false .front word
  return Wild.pattern (Field.marked (Expansion.pieces stretches))

end Word
end DeviceMatrix.Shell
