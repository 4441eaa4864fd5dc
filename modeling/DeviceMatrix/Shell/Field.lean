import DeviceMatrix.Host.Disk
import DeviceMatrix.Shell.Pattern
import DeviceMatrix.Shell.State

/-! Fields: what a word is cut into once everything in it has been replaced. Texts that stand for
something else are cut at separators, and arguments are kept apart. A field can be a pattern for
the paths of files. -/
namespace DeviceMatrix.Shell

inductive Cut where
  | never
  | separators
  | arguments
  deriving DecidableEq, Repr

inductive Piece where
  /-- A sign that quotes stood here, so that a field without characters is still a field. -/
  | quotes
  | char (c : Char) (quoted : Bool)
  deriving DecidableEq, Repr

/-- A part of an expanded word. The character zero stands between arguments. -/
structure Stretch where
  cut : Cut
  pieces : List Piece

abbrev Field := List Piece

namespace Field

def text (field : Field) : List Char :=
  field.filterMap fun
    | .char c _ => some c
    | .quotes => none

def marked (field : Field) : List Marked :=
  field.filterMap fun
    | .char c quoted => some (c, quoted)
    | .quotes => none

def ofText (quoted : Bool) (text : List Char) : Field := text.map (.char · quoted)

structure Cutting where
  /-- The fields that are complete, the latest first. -/
  done : List Field := []
  current : Field := []
  /-- Whether the last field ended at spacing, more of which means nothing. -/
  spaced : Bool := false
  listed : Bool := false
  left : Option Nat := none
  /-- What of the last field is kept where the end of it is spacing. -/
  kept : Option Nat := none

def Cutting.take (separators : List Char) (cut : Cut) (behindListed : Bool) (cutting : Cutting)
    (c : Char) (quoted : Bool) : Cutting :=
  let piece := Piece.char c quoted
  let separates := c = '\x00' || (cut ≠ .arguments && separators.contains c)
  let spacing := separates && (c = '\x00' || State.defaultSeparators.contains c)
  let longer := { cutting with current := piece :: cutting.current }
  if cutting.left = some 0 then
    if spacing then { longer with kept := cutting.kept.or (some cutting.current.length) }
    else
      { longer with
        kept := if separates && cutting.spaced then cutting.kept else none
        spaced := false }
  else if cutting.spaced then
    if spacing then { cutting with current := [] }
    else { cutting with current := if separates then [] else [piece], spaced := false }
  else if separates then
    let spaced := if behindListed || cut = .arguments then false else spacing
    if cutting.current.isEmpty && spaced then cutting
    else if cutting.left = some 1 then
      { longer with spaced, left := some 0, kept := some cutting.current.length }
    else
      { cutting with
        done := cutting.current.reverse :: cutting.done
        current := []
        spaced
        left := cutting.left.map (· - 1) }
  else longer

def Cutting.add (separators : List Char) (cutting : Cutting) (stretch : Stretch) : Cutting :=
  if stretch.cut = .never then
    { cutting with current := stretch.pieces.reverse ++ cutting.current }
  else
    stretch.pieces.foldl (fun next piece => match piece with
      | .char c quoted => next.take separators stretch.cut cutting.listed c quoted
      | .quotes => { next with current := .quotes :: next.current })
      { cutting with spaced := false, listed := stretch.cut = .arguments }

def split (separators : List Char) (limit : Option Nat) (word : List Stretch) : List Field :=
  let cutting := word.foldl (Cutting.add separators) { left := limit }
  let last := cutting.current.reverse
  if cutting.listed then (last :: cutting.done).reverse
  else
    let last := match cutting.kept with
      | some length => last.take length
      | none => last
    (if last.isEmpty then cutting.done else last :: cutting.done).reverse

end Field

/-! Paths that match a pattern. -/
namespace Paths

def settle : List Marked → List Marked
  | ('\\', false) :: (c, _) :: rest => (c, true) :: settle rest
  | first :: rest => first :: settle rest
  | [] => []

def closes : List Marked → Bool
  | _ :: (']', false) :: _ => true
  | _ :: rest => closes rest
  | [] => false

def isPattern : List Marked → Bool
  | ('*', false) :: _ | ('?', false) :: _ => true
  | ('[', false) :: ('!', false) :: rest => closes rest || isPattern rest
  | ('[', false) :: rest => closes rest || isPattern rest
  | _ :: rest => isPattern rest
  | [] => false

def names : List Marked → List (List Marked)
  | [] => [[]]
  | (c, quoted) :: rest =>
    match names rest with
    | [] => [[(c, quoted)]]
    | name :: others => if c = '/' then [] :: name :: others else ((c, quoted) :: name) :: others

def entries (disk : Host.Disk) (directory : Host.Location) (path : List Char) :
    List (List Char) :=
  match disk.locate directory (if path.isEmpty then "." else toText path) with
  | .error _ => []
  | .ok location =>
    match disk.node? location with
    | some .directory =>
      ['.'] :: ['.', '.'] :: disk.entries.filterMap fun (place, _) =>
        if place ≠ [] ∧ place.dropLast = location then place.getLast?.map Shell.ofText else none
    | _ => []

def follow (disk : Host.Disk) (directory : Host.Location) :
    (path : List Char) → List (List Marked) → List (List Char)
  | path, [] => if (disk.find directory (toText path)).isOk then [path] else []
  | path, name :: names =>
    let further (name : List Char) : List (List Char) :=
      if names.isEmpty then follow disk directory (path ++ name) names
      else follow disk directory (path ++ name ++ ['/']) names
    if isPattern name then
      let hidden := (name.head?.map (·.1)) = some '.'
      let pattern := Wild.pattern name
      (entries disk directory path).flatMap fun entry =>
        if (entry.head? ≠ some '.' || hidden) && Wild.accepts pattern entry then further entry
        else []
    else further (name.map (·.1))

def matching (disk : Host.Disk) (directory : Host.Location) (pattern : List Marked) :
    List (List Char) :=
  let names := names (settle pattern)
  if names.any isPattern then (follow disk directory [] names).mergeSort fun a b => !b.lex a
  else []

end Paths

/-- What a field becomes: the paths that it matches as a pattern, or its text. -/
def Field.results (state : State) (field : Field) : List (List Char) :=
  if state.has 'f' then [field.text]
  else match Paths.matching state.world.disk state.directory field.marked with
    | [] => [field.text]
    | paths => paths

end DeviceMatrix.Shell
