import DeviceMatrix.Shell.State

/-! The commands that a shell carries out itself: how they are treated, how they read their words
and how they print. -/
namespace DeviceMatrix.Shell

/-- A command of the shell, for the words behind its name; its status is the result. -/
abbrev Builtin := List (List Char) → Act Nat

inductive Builtin.Kind where
  /-- Its errors end the script, and what is assigned in front of it stays. -/
  | special
  | ordinary
  deriving DecidableEq, Repr

def Builtin.kind? (name : String) : Option Builtin.Kind :=
  if [".", ":", "break", "continue", "eval", "exec", "exit", "export", "local", "readonly",
      "return", "set", "shift", "times", "trap", "unset"].contains name then some .special
  else if ["[", "alias", "bg", "cd", "chdir", "command", "echo", "false", "fg", "getopts", "hash",
      "jobs", "kill", "printf", "pwd", "read", "test", "true", "type", "ulimit", "umask",
      "unalias", "wait"].contains name then some .ordinary
  else none

def Builtin.declares (name : String) : Bool :=
  ["alias", "export", "local", "readonly"].contains name

namespace Act

def output (text : List Char) : Act Nat := do
  if text.isEmpty then return 0
  if ← print 1 text then return 0
  complain (((← get).command.getD []) ++ ": I/O error".toList)
  return 1

def outputLines (lines : List (List Char)) : Act Nat :=
  output (lines.flatMap (· ++ ['\n']))

def number (word : List Char) : Act Nat :=
  match Integer.small? word with
  | some n => return n
  | none => fail ("Illegal number: ".toList ++ word)

end Act

namespace Builtin

open Act

/-- The options in front of some words, with their values, and the words behind them. Letters in
`valued` take what follows them, or the next word. -/
def letters (known valued : List Char) :
    List Char → List (List Char) → Act (List (Char × List Char) × Option (List (List Char)))
  | [], _ => return ([], none)
  | c :: rest, words => do
    if valued.contains c then
      match rest, words with
      | [], [] => fail ("No arg for -".toList ++ [c] ++ " option".toList)
      | [], value :: words => return ([(c, value)], some words)
      | value, words => return ([(c, value)], some words)
    else if known.contains c then
      let (others, left) ← letters known valued rest words
      return ((c, []) :: others, left)
    else fail ("Illegal option -".toList ++ [c])

def options (known valued : List Char) :
    Nat → List (List Char) → Act (List (Char × List Char) × List (List Char))
  | 0, words => return ([], words)
  | fuel + 1, words =>
    match words with
    | ('-' :: c :: rest) :: words => do
      if c = '-' ∧ rest = [] then return ([], words)
      let (found, left) ← letters known valued (c :: rest) words
      let (others, words) ← options known valued fuel (left.getD words)
      return (found ++ others, words)
    | words => return ([], words)

def operands (words : List (List Char)) : Act (List (List Char)) := do
  let (_, words) ← options [] [] 1 words
  return words

/-- A text between single quotes. Single quotes in it stand between double quotes. -/
def quoted : Nat → List Char → List Char
  | 0, _ => []
  | fuel + 1, text =>
    let plain := text.takeWhile (· ≠ '\x27')
    let rest := text.drop plain.length
    let marks := rest.takeWhile (· = '\x27')
    let rest := rest.drop marks.length
    ['\x27'] ++ plain ++ ['\x27'] ++
      (if marks.isEmpty then [] else ['"'] ++ marks ++ ['"']) ++
      (if rest.isEmpty then [] else quoted fuel rest)

def singleQuoted (text : List Char) : List Char := quoted (text.length + 1) text

end Builtin
end DeviceMatrix.Shell
