import DeviceMatrix.Shell.Condition
import DeviceMatrix.Shell.Lookup

/-! Commands about files and directories. -/
namespace DeviceMatrix.Shell

namespace Builtin

open Act

def finder (state : State) : Condition.Finder := fun path =>
  match state.world.disk.find state.directory (toText path) with
  | .ok node =>
    match state.world.disk.locate state.directory (toText path) with
    | .ok location => some (location, node)
    | .error _ => none
  | .error _ => none

def condition : Builtin := fun words => do
  match Condition.holds (finder (← get)) words with
  | .ok holds => return if holds then 0 else 1
  | .error text => fail text

def bracket : Builtin := fun words => do
  if words.getLast? = some [']'] then condition words.dropLast
  else fail "missing ]".toList

def enter (path : List Char) : Act Bool := do
  let state ← get
  match state.world.disk.find state.directory (toText path),
    state.world.disk.locate state.directory (toText path) with
  | .ok .directory, .ok directory =>
    let before := state.path
    let front := path.takeWhile (· = '/')
    let slashes := if front.isEmpty then state.slashes else front.length = 2
    set { state with directory, slashes }
    assign "OLDPWD" before true
    assign "PWD" (← get).path true
    return true
  | _, _ => return false

def isPlaced (path : List Char) : Bool :=
  path.head? = some '/' || path = ['.'] || path = ['.', '.'] || ['.', '/'].isPrefixOf path ||
    ['.', '.', '/'].isPrefixOf path

def enterFrom (path : List Char) : List (List Char) → Act (Option Bool)
  | [] => return none
  | place :: others => do
    if ← enter (place ++ path) then return some (!place.isEmpty)
    enterFrom path others

def changeDirectory : Builtin := fun words => do
  let (_, words) ← options ['L', 'P'] [] words.length words
  let state ← get
  let (path, shows) := match words with
    | [] => ((state.value? "HOME").getD [], false)
    | ['-'] :: _ => ((state.value? "OLDPWD").getD [], true)
    | path :: _ => (path, false)
  let entered ←
    if isPlaced path then do
      if ← enter path then pure (some false) else pure none
    else
      let path := if path.isEmpty then ['.'] else path
      enterFrom path (match state.value? "CDPATH" with
        | some list => Finding.places list ++ [[]]
        | none => [[]])
  match entered with
  | none => fail ("can't cd to ".toList ++ path)
  | some named => if shows || named then outputLines [(← get).path] else return 0

def workingDirectory : Builtin := fun words => do
  let _ ← options ['L', 'P'] [] words.length words
  outputLines [(← get).path]

def permissions (mask place : Nat) : List Char :=
  let bits := (mask / place) % 8
  (if bits / 4 % 2 = 0 then ['r'] else []) ++ (if bits / 2 % 2 = 0 then ['w'] else []) ++
    (if bits % 2 = 0 then ['x'] else [])

/-- The bits of a permission letter. Some letters look at the permissions that there were. -/
def bitsOf (before : Nat) : Char → Nat
  | 'r' => 4
  | 'w' => 2
  | 'x' => 1
  | 'X' => if Nat.land before 73 = 0 then 0 else 1
  | 'u' => before / 64
  | 'g' => before / 8 % 8
  | 'o' => before % 8
  | _ => 0

def changes? (text : List Char) : Option (List (Char × List Char)) :=
  let found? := text.foldlM (fun changes c =>
    if ['+', '-', '='].contains c then some ((c, []) :: changes)
    else match changes with
      | (sign, letters) :: earlier =>
        if ['r', 'w', 'x', 'X', 's', 'u', 'g', 'o'].contains c then
          some ((sign, c :: letters) :: earlier)
        else none
      | [] => none) ([] : List (Char × List Char))
  found?.bind fun changes => if changes.isEmpty then none else some changes.reverse

def clause? (before allowed : Nat) (text : List Char) : Option Nat :=
  let who := text.takeWhile (['u', 'g', 'o', 'a'].contains ·)
  let places := [('u', 64), ('g', 8), ('o', 1)].filterMap fun (c, place) =>
    if who.isEmpty || who.contains c || who.contains 'a' then some place else none
  (changes? (text.drop who.length)).map fun changes =>
    changes.foldl (fun allowed (sign, letters) =>
      let bits := letters.foldl (fun bits c => Nat.lor bits (bitsOf before c)) 0
      places.foldl (fun allowed place =>
        let old := (allowed / place) % 8
        let new :=
          if sign = '+' then Nat.lor old bits
          else if sign = '-' then Nat.land old (7 - bits)
          else bits
        allowed - old * place + new * place) allowed) allowed

def clauses? (before : Nat) (text : List Char) : Option Nat :=
  let clauses := text.splitOn ','
  let clauses := if clauses.getLast? = some [] then clauses.dropLast else clauses
  if text = [','] then none else clauses.foldlM (clause? before) before

def umask : Builtin := fun words => do
  let (options, words) ← options ['S'] [] words.length words
  let state ← get
  match words with
  | [] =>
    if options.isEmpty then
      let digits := Nat.toDigits 8 state.mask
      outputLines [List.replicate (4 - digits.length) '0' ++ digits]
    else
      outputLines ["u=".toList ++ permissions state.mask 64 ++ ",g=".toList ++
        permissions state.mask 8 ++ ",o=".toList ++ permissions state.mask 1]
  | word :: _ => do
    if word.head?.any Char.isDigit then
      let (mask, rest) := Integer.magnitude 8 word
      unless rest.isEmpty do fail ("Illegal number: ".toList ++ word)
      set { state with mask := mask % 512 }
    else
      match clauses? (511 - state.mask) word with
      | some allowed => set { state with mask := 511 - allowed }
      | none => fail ("Illegal mode: ".toList ++ word)
    return 0

end Builtin
end DeviceMatrix.Shell
