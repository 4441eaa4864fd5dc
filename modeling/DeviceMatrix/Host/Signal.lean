import DeviceMatrix.Text.Decimal

/-! Signals by number: their names, the texts for programs that they ended, and what they do to
a program that has not asked for anything else. -/
namespace DeviceMatrix.Host

structure Signal where
  name : String
  text : String
  deriving DecidableEq, Repr

namespace Signal

/-- The signals that have a name of their own, from number one on. -/
def named : List Signal := [
  ⟨"HUP", "Hangup"⟩, ⟨"INT", "Interrupt"⟩, ⟨"QUIT", "Quit"⟩, ⟨"ILL", "Illegal instruction"⟩,
  ⟨"TRAP", "Trace/breakpoint trap"⟩, ⟨"ABRT", "Aborted"⟩, ⟨"BUS", "Bus error"⟩,
  ⟨"FPE", "Floating point exception"⟩, ⟨"KILL", "Killed"⟩, ⟨"USR1", "User defined signal 1"⟩,
  ⟨"SEGV", "Segmentation fault"⟩, ⟨"USR2", "User defined signal 2"⟩, ⟨"PIPE", "Broken pipe"⟩,
  ⟨"ALRM", "Alarm clock"⟩, ⟨"TERM", "Terminated"⟩, ⟨"STKFLT", "Stack fault"⟩,
  ⟨"CHLD", "Child exited"⟩, ⟨"CONT", "Continued"⟩, ⟨"STOP", "Stopped (signal)"⟩,
  ⟨"TSTP", "Stopped"⟩, ⟨"TTIN", "Stopped (tty input)"⟩, ⟨"TTOU", "Stopped (tty output)"⟩,
  ⟨"URG", "Urgent I/O condition"⟩, ⟨"XCPU", "CPU time limit exceeded"⟩,
  ⟨"XFSZ", "File size limit exceeded"⟩, ⟨"VTALRM", "Virtual timer expired"⟩,
  ⟨"PROF", "Profiling timer expired"⟩, ⟨"WINCH", "Window changed"⟩, ⟨"IO", "I/O possible"⟩,
  ⟨"PWR", "Power failure"⟩, ⟨"SYS", "Bad system call"⟩]

def named? (number : Nat) : Option Signal :=
  if number = 0 then none else named[number - 1]?

def limit : Nat := 65

def firstNumbered : Nat := 34

def describe (number : Nat) : String :=
  match named? number with
  | some signal => signal.text
  | none =>
    if firstNumbered ≤ number then
      "Real-time signal " ++ Decimal.ofNat (number - firstNumbered)
    else "Unknown signal " ++ Decimal.ofNat number

/-- What a signal does to a program that has not asked for anything else. -/
inductive Effect where
  | ends
  | stops
  | nothing
  deriving DecidableEq, Repr

def effect (number : Nat) : Effect :=
  if [0, 17, 18, 23, 28].contains number then .nothing
  else if 19 ≤ number ∧ number ≤ 22 then .stops
  else .ends

/-- Whether a program that the signal ends has crashed, so that its memory may be kept. -/
def dumps (number : Nat) : Bool := [3, 4, 5, 6, 7, 8, 11, 24, 25, 31].contains number

def dumpNote (dumped : Bool) : String := if dumped then " (core dumped)" else ""

/-- The signal of a calculation that cannot be carried out. -/
def arithmetic : Nat := 8

def pipe : Nat := 13

def isFinal (number : Nat) : Bool := number = 9 || number = 19

end Signal
end DeviceMatrix.Host
