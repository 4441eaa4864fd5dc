import DeviceMatrix.Shell.Builtin.Basic

/-! What the name of a command stands for: a word of the language, an alias, a function, a
command of the shell, or a program on the disk. -/
namespace DeviceMatrix.Shell

inductive Finding where
  | program (name : String) (path : List Char)
  /-- Why it cannot be run, and the status of that. -/
  | none (text : String) (status : Nat)

namespace Finding

def atPath (state : State) (path : List Char) : Finding :=
  match state.world.disk.find state.directory (toText path) with
  | .ok (.program name) => .program name path
  | .ok _ => .none "Permission denied" 126
  | .error error =>
    match error with
    | .notFound | .notDirectory => .none "not found" 127
    | .nameTooLong => .none error.text.1 127
    | error => .none error.text.1 126

def standardPlaces : List Char :=
  "/usr/local/sbin:/usr/local/bin:/usr/sbin:/usr/bin:/sbin:/bin".toList

/-- The directories of a list with colons, each with a slash behind it unless it is empty. -/
def places (list : List Char) : List (List Char) :=
  (list.splitOn ':').map fun place =>
    if place.isEmpty then []
    else if place.getLast? = some '/' then place
    else place ++ ['/']

/-- The first program of a name among some places. What was in the way last is the reason why
there is none. -/
def search (state : State) (name : List Char) : (reason : String) → List (List Char) → Finding
  | reason, [] => .none reason 127
  | reason, place :: others =>
    match atPath state (place ++ name) with
    | .program found path => .program found path
    | .none "not found" _ => search state name reason others
    | .none text _ => search state name text others

/-- The program of a name. One with a slash in it is a path. -/
def named (state : State) (standard : Bool) (name : List Char) : Finding :=
  if name.contains '/' then atPath state name
  else
    let list := if standard then standardPlaces else (state.value? "PATH").getD []
    search state name "not found" (places list)

end Finding

namespace Lookup

def describe (state : State) (standard verbose : Bool) (name : List Char) : List Char × Nat :=
  let spelled := String.ofList name
  let line (text : List Char) := (text ++ ['\n'], 0)
  let told (text : String) := line (if verbose then name ++ text.toList else name)
  if Script.reserved.contains spelled then told " is a shell keyword"
  else match state.aliases.lookup spelled with
    | some text =>
      line (if verbose then name ++ " is an alias for ".toList ++ text
        else "alias ".toList ++ name ++ ['='] ++ Builtin.singleQuoted text)
    | none =>
      if !name.contains '/' && (state.functions.lookup spelled).isSome then
        told " is a shell function"
      else match if name.contains '/' then none else Builtin.kind? spelled with
        | some .special => told " is a special shell builtin"
        | some .ordinary => told " is a shell builtin"
        | none =>
          let found? : Option (List Char) :=
            if name.contains '/' then
              if (state.world.disk.find state.directory (toText name)).isOk then some name
              else none
            else match Finding.named state standard name with
              | .program _ path => some path
              | .none _ _ => none
          match found? with
          | some path => line (if verbose then name ++ " is ".toList ++ path else path)
          | none => (if verbose then name ++ ": not found\n".toList else [], 127)

def describeAll (state : State) (standard verbose : Bool) (names : List (List Char)) :
    List Char × Nat :=
  names.foldl (fun (text, status) name =>
    let (line, found) := describe state standard verbose name
    (text ++ line, if found = 0 then status else found)) ([], 0)

end Lookup
end DeviceMatrix.Shell
