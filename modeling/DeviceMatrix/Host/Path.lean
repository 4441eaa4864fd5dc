/-! Paths as they are written. Names stand between slashes; empty names and single dots mean
nothing, except for a dot at the front. -/
namespace DeviceMatrix.Host.Path

def names (path : String) : List String := (path.toList.splitOn '/').map String.ofList

def isVoid (name : String) : Bool := name == "" || name == "."

/-- Drops the names at the end that mean nothing. -/
def trimmed (names : List String) : List String := (names.reverse.dropWhile isVoid).reverse

def front (path : String) : String :=
  if path.startsWith "/" then "/"
  else if path = "." ∨ path.startsWith "./" then "."
  else ""

/-- The path without its last name. A path that consists of its front has no parent, except
that a dot stands in the empty path. -/
def parent? (path : String) : Option String :=
  let front := front path
  let body := trimmed (names (path.drop front.length).toString)
  if body.isEmpty then
    if front = "." then some "" else none
  else some (front ++ "/".intercalate (trimmed body.dropLast))

def below (directory path : String) : String :=
  if path.startsWith "/" then path else directory ++ "/" ++ path

/-- A tilde at the front stands for the home directory if a slash or nothing follows it. -/
def expandHome (home path : String) : String :=
  match path.toList with
  | ['~'] => home
  | '~' :: '/' :: rest => home ++ "/" ++ String.ofList rest
  | _ => path

end DeviceMatrix.Host.Path
