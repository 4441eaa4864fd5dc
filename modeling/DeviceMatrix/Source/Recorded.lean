import DeviceMatrix.Source.Basic
import DeviceMatrix.Text.Decimal

/-! A recorded execution as a step source. It is paged as a service would page it: a token is
the number of steps that came before, in decimal. The handle is not looked at. -/
namespace DeviceMatrix.Recording

def offset? (recording : Recording) : Option String → Option Nat
  | none => some 0
  | some token => (Decimal.word? token.toList).filter (· ≤ recording.steps.length)

/-- Where the page behind the first `start` steps ends. A page holds at least one step if one is
left. The sum is taken in 64 bits, where it stays at the largest word. -/
def stop (recording : Recording) (start pageSize : Nat) : Nat :=
  min (min (start + max pageSize 1) Decimal.maxWord) recording.steps.length

def page (recording : Recording) (start pageSize : Nat) : StepPage :=
  let stop := recording.stop start pageSize
  { steps := recording.steps.extract start stop
    nextToken := if stop < recording.steps.length then some (Decimal.ofNat stop) else none }

def list (recording : Recording) (token : Option String) (pageSize : Nat) :
    Except ServiceError StepPage :=
  match recording.offset? token with
  | some start => .ok (recording.page start pageSize)
  | none => .error (.invalidPageToken (token.getD ""))

def source {m : Type → Type} [Monad m] (name : String) (recording : Recording) : StepSource m where
  name := name
  list _ token pageSize := pure ⟨recording.list token pageSize, []⟩
  rollup _ := pure ⟨.ok recording.execution.rollup, []⟩

end DeviceMatrix.Recording
