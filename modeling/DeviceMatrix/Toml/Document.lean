import DeviceMatrix.Toml.Number
import DeviceMatrix.Toml.Table

/-! TOML documents read line by line into the entries of their root table. -/
namespace DeviceMatrix.Toml

namespace Scan

mutual

/-- A value that stands `depth` levels away from the limit of nesting. -/
def value : (fuel depth : Nat) → Reader Value
  | 0, _, _ => none
  | _, _, [] => none
  | fuel + 1, depth, c :: rest =>
    if c = '"' ∨ c = '\x27' then
      (text (c :: rest)).map fun (content, rest) => (.text (String.ofList content), rest)
    else if c = '[' then
      match depth with
      | depth + 2 => (items fuel (depth + 1) rest).map fun (found, rest) => (.array found, rest)
      | _ => none
    else if c = '\x7b' then
      match depth with
      | depth + 2 => do
        let (entries, rest) ← braced fuel (depth + 1) [] rest
        return (.table (settledEntries entries), rest)
      | _ => none
    else if c = 't' then word "true" (.flag true) (c :: rest)
    else if c = 'f' then word "false" (.flag false) (c :: rest)
    else if startsMoment (c :: rest) then moment (c :: rest)
    else number (c :: rest)

def items : (fuel depth : Nat) → Reader (List Value)
  | 0, _, _ => none
  | fuel + 1, depth, s => do
    match ← skipSpace (s.length + 1) s with
    | ']' :: rest => return ([], rest)
    | s => do
      let (item, rest) ← value fuel depth s
      match ← skipSpace (rest.length + 1) rest with
      | ',' :: rest => do
        let (others, rest) ← items fuel depth rest
        return (item :: others, rest)
      | ']' :: rest => return ([item], rest)
      | _ => none

/-- The entries of a table in braces, which stand on one line. -/
def braced : (fuel depth : Nat) → Entries → Reader Entries
  | 0, _, _, _ => none
  | fuel + 1, depth, entries, s => do
    match skipBlanks s with
    | '\x7d' :: rest => if entries.isEmpty then some (entries, rest) else none
    | s => do
      let ((path, key), rest) ← key s
      let rest ← one '=' rest
      let (content, rest) ← value fuel depth (skipBlanks rest)
      let entries ← entries.insert path key (.value content)
      match skipBlanks rest with
      | ',' :: rest =>
        match skipBlanks rest with
        | '\x7d' :: _ => none
        | rest => braced fuel depth entries rest
      | '\x7d' :: rest => return (entries, rest)
      | _ => none

end

end Scan

/-- A document part way through: the tables that are complete, and the one that lines are
added to. -/
structure Draft where
  root : Entries := []
  /-- The header of the open table, and whether it is one of an array; none for the root. -/
  header : Option (List String × String × Bool) := none
  content : Entries := []

namespace Draft

def close (draft : Draft) : Option Entries :=
  match draft.header with
  | none => some draft.content
  | some (path, key, array) => draft.root.close path key array draft.content

def openTable (draft : Draft) (path : List String) (key : String) (array : Bool) :
    Option Draft := do
  let root ← draft.close
  if array then
    let root ← root.extend path key
    return ⟨root, some (path, key, true), []⟩
  else
    let (root, content) ← root.reopen path key
    return ⟨root, some (path, key, false), content⟩

def lines : Nat → Draft → List Char → Option Draft
  | 0, _, _ => none
  | fuel + 1, draft, s =>
    match Scan.skipBlanks s with
    | [] => some draft
    | '[' :: '[' :: rest => do
      let ((path, key), rest) ← Scan.key rest
      let rest ← Scan.endLine? (← Scan.one ']' (← Scan.one ']' rest))
      lines fuel (← draft.openTable path key true) rest
    | '[' :: rest => do
      let ((path, key), rest) ← Scan.key rest
      let rest ← Scan.endLine? (← Scan.one ']' rest)
      lines fuel (← draft.openTable path key false) rest
    | '#' :: rest => do
      let rest ← Scan.endLine? ('#' :: rest)
      lines fuel draft rest
    | s =>
      match Scan.newLine? s with
      | some rest => lines fuel draft rest
      | none => do
        let ((path, key), rest) ← Scan.key s
        let rest := Scan.skipBlanks (← Scan.one '=' rest)
        let (content, rest) ← Scan.value (2 * rest.length + 2) Scan.depthLimit rest
        let rest ← Scan.endLine? rest
        let content ← draft.content.insert path key (.value content)
        lines fuel { draft with content } rest

end Draft

/-- The entries of the root table, if the text is a document. -/
def read? (text : List Char) : Option (List (String × Value)) := do
  let text := match text with
    | '\ufeff' :: rest => rest
    | text => text
  let draft ← Draft.lines (text.length + 1) {} text
  return settledEntries (← draft.close)

end DeviceMatrix.Toml
