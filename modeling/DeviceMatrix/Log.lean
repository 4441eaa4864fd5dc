import DeviceMatrix.Text.Terminal

/-! Log lines, and values that come with the lines logged on the way to them. -/
namespace DeviceMatrix

inductive Level where
  | debug
  | info
  | warn
  deriving DecidableEq, Repr

def Level.name : Level → String
  | debug => "DEBUG"
  | info => "INFO"
  | warn => "WARN"

structure Line where
  level : Level
  text : String
  deriving DecidableEq, Repr

def Line.show (line : Line) : String := line.level.name ++ " " ++ line.text

def Line.printed (line : Line) : String :=
  line.level.name ++ " " ++ Text.forTerminal line.text

/-- What a run without `verbose` leaves out. -/
def Line.isShown (verbose : Bool) (line : Line) : Bool := verbose || line.level != .debug

structure Logged (α : Type) where
  value : α
  log : List Line := []
  deriving DecidableEq, Repr

namespace Logged

variable {α β : Type}

def map (f : α → β) (logged : Logged α) : Logged β := ⟨f logged.value, logged.log⟩

/-- Puts lines that were logged earlier in front. -/
def after (log : List Line) (logged : Logged α) : Logged α := ⟨logged.value, log ++ logged.log⟩

end Logged
end DeviceMatrix
