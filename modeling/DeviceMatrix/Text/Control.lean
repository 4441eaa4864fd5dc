import DeviceMatrix.Text.Width

/-! Terminal control sequences in text. A sequence starts with an escape or the one-character
introducer U+009B, goes on with brackets and numbers of up to four digits between semicolons,
and ends with a letter or a further digit. Of the stretches that are sequences the longest
counts. On a terminal, sequences take no columns. -/
namespace DeviceMatrix.Text

namespace Control

inductive State where
  | introduced
  /-- After one round bracket, which may select a character set. -/
  | bracket
  | charset
  | opened
  | number (digits : Nat)
  | separated
  | closed
  deriving DecidableEq, Repr

def State.accepts : State → Bool
  | charset | number _ | closed => true
  | introduced | bracket | opened | separated => false

def State.isOpen : State → Bool
  | introduced | bracket | opened => true
  | charset | number _ | separated | closed => false

def State.canClose : State → Bool
  | number digits => digits < 5
  | charset | closed => false
  | introduced | bracket | opened | separated => true

def isCloser (c : Char) : Bool :=
  ('A' ≤ c && c ≤ 'P') || c == 'R' || c == 'Z' || c == 'c' || ('f' ≤ c && c ≤ 'n') ||
    c == 'q' || c == 'r' || c == 'y' || c == '=' || c == '>' || c == '<'

def step (state : State) (c : Char) : Option State :=
  if c == '(' || c == ')' then
    if state = .introduced then some .bracket
    else if state.isOpen then some .opened
    else none
  else if c == ';' then
    if state.isOpen then some .opened
    else if state.canClose then some .separated
    else none
  else if c == '[' || c == '#' || c == '?' then
    if state.isOpen then some .opened else none
  else if c.isDigit then
    match state with
    | .bracket => some (if c ≤ '2' then .charset else .number 1)
    | .number digits => if digits < 5 then some (.number (digits + 1)) else none
    | .introduced | .opened | .separated => some (.number 1)
    | .charset | .closed => none
  else if isCloser c && state.canClose then some .closed
  else none

/-- The text behind the longest sequence that goes on from a state. -/
def rest? (state : State) : List Char → Option (List Char)
  | [] => if state.accepts then some [] else none
  | c :: s =>
    let here := if state.accepts then some (c :: s) else none
    match step state c with
    | none => here
    | some next => (rest? next s).or here

theorem length_rest?_le {state : State} {s rest : List Char} (h : rest? state s = some rest) :
    rest.length ≤ s.length := by
  induction s generalizing state with
  | nil => simp [rest?] at h; simp [h]
  | cons c s ih =>
    have here {r : List Char} (h : (if state.accepts then some (c :: s) else none) = some r) :
        r.length ≤ (c :: s).length := by
      split at h <;> simp_all
    unfold rest? at h
    dsimp only at h
    split at h
    · exact here h
    · rcases Option.or_eq_some_iff.1 h with found | ⟨_, found⟩
      · have := ih found
        simp
        omega
      · exact here found

def isIntroducer (c : Char) : Bool := c == '\x1b' || c.toNat == 0x9b

end Control

def withoutControls : List Char → List Char
  | [] => []
  | c :: s =>
    if Control.isIntroducer c then
      match _h : Control.rest? .introduced s with
      | some rest => withoutControls rest
      | none => c :: withoutControls s
    else c :: withoutControls s
termination_by s => s.length
decreasing_by
  · have := Control.length_rest?_le _h
    simp
    omega
  · simp
  · simp

def width (s : String) : Nat := plainWidth (withoutControls s.toList)

def padded (columns : Nat) (s : String) : String :=
  s ++ String.ofList (List.replicate (columns - width s) ' ')

end DeviceMatrix.Text
