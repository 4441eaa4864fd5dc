import DeviceMatrix.Shell.Bytes
import DeviceMatrix.Text.Decimal

/-! What a script is made of: words with parts that stand for something else, redirections, and
commands. -/
namespace DeviceMatrix.Shell

inductive Parameter where
  | named (name : String)
  | position (index : Nat)
  /-- The arguments, each by itself between quotes. -/
  | arguments
  /-- The arguments as one text between quotes. -/
  | joined
  | count
  | status
  | process
  | options
  | background
  deriving DecidableEq, Repr

def Parameter.spelling : Parameter → List Char
  | named name => name.toList
  | position index => Decimal.digits index
  | arguments => ['@']
  | joined => ['*']
  | count => ['#']
  | status => ['?']
  | process => ['$']
  | options => ['-']
  | background => ['!']

inductive Opening where
  | reading
  | writing
  /-- Even where existing files are spared. -/
  | overwriting
  | appending
  | both
  deriving DecidableEq, Repr

mutual

inductive Part where
  | plain (text : List Char)
  | quoted (text : List Char)
  | parameter (which : Parameter) (form : Form) (quoted : Bool)
  | printed (commands : List Command) (quoted : Bool)
  | arithmetic (expression : List Part) (quoted : Bool)
  | unreadable

inductive Form where
  | value
  | extended (word : List Part)
  | size
  /-- Another text if it is missing, or empty where that counts. The text may be `kept`. -/
  | fallback (orEmpty kept : Bool) (word : List Part)
  /-- Another text unless it is missing. -/
  | instead (orEmpty : Bool) (word : List Part)
  | required (orEmpty : Bool) (word : List Part)
  | trimmed (back longest : Bool) (pattern : List Part)

inductive Redirect where
  | file (descriptor : Nat) (opening : Opening) (path : List Part)
  /-- What another descriptor is, by its number, or nothing for a dash. -/
  | duplicate (descriptor : Nat) (source : List Part)
  | text (descriptor : Nat) (content : List Part)

inductive Command where
  | simple (line : Nat) (assignments words : List (List Part)) (redirects : List Redirect)
  | each (line : Nat) (name : String) (items : List (List Part)) (body : List Command)
  /-- Goes on as long as the condition succeeds, or as long as it fails. -/
  | whilst (success : Bool) (condition body : List Command)
  | choose (line : Nat) (subject : List Part) (arms : List (List (List Part) × List Command))
  | branch (condition body otherwise : List Command)
  | both (first second : Command)
  | either (first second : Command)
  | negated (command : Command)
  | piped (commands : List Command)
  | group (body : List Command)
  /-- What the body changes is lost. -/
  | apart (line : Nat) (body : List Command) (redirects : List Redirect)
  | redirected (line : Nat) (command : Command) (redirects : List Redirect)
  | background (line : Nat) (command : Command)
  | function (name : String) (body : Command)

end

abbrev Word := List Part

namespace Word

def bare? : Word → Option (List Char)
  | [.plain text] => some text
  | _ => none

def literal (word : Word) : List Char :=
  word.flatMap fun
    | .plain text | .quoted text => text
    | _ => []

def isQuoted (word : Word) : Bool := word.any fun | .quoted _ => true | _ => false

def assignment? : Word → Option (String × Word)
  | .plain text :: rest =>
    let name := text.takeWhile isNameChar
    match text.drop name.length with
    | '=' :: value =>
      if isName name then
        some (String.ofList name, if value.isEmpty then rest else .plain value :: rest)
      else none
    | _ => none
  | _ => none

/-- Adds a character to a word that stands in reverse, and so do its texts. -/
def add (quoted : Bool) (c : Char) : List Part → List Part
  | .plain text :: done =>
    if quoted then .quoted [c] :: .plain text :: done else .plain (c :: text) :: done
  | .quoted text :: done =>
    if quoted then .quoted (c :: text) :: done else .plain [c] :: .quoted text :: done
  | done => (if quoted then .quoted [c] else .plain [c]) :: done

/-- Notes in such a word that something is quoted, be it nothing at all. -/
def mark : List Part → List Part
  | .quoted text :: done => .quoted text :: done
  | done => .quoted [] :: done

def finish (done : List Part) : Word :=
  done.reverse.map fun
    | .plain text => .plain text.reverse
    | .quoted text => .quoted text.reverse
    | part => part

end Word
end DeviceMatrix.Shell
