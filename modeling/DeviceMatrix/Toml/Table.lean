import DeviceMatrix.Toml.Value

/-! Tables under construction. A table can be opened by a header only once, and a table that
dotted keys have made cannot be opened by a header, nor the other way round. -/
namespace DeviceMatrix.Toml

/-- How a table came to be: by its own header or in braces, on the way to another table's
header, or by a dotted key. -/
inductive Origin where
  | declared
  | passed
  | dotted
  deriving DecidableEq, Repr

inductive Item where
  | value (value : Value)
  | table (origin : Origin) (entries : List (String × Item))
  | tables (done : List (List (String × Item)))

abbrev Entries := List (String × Item)

namespace Entries

def find? (entries : Entries) (key : String) : Option Item := entries.lookup key

def replace (entries : Entries) (key : String) (item : Item) : Entries :=
  entries.map fun (other, content) => if other = key then (key, item) else (other, content)

def remove (entries : Entries) (key : String) : Entries := entries.filter (·.1 ≠ key)

/-- Works on the table at the end of a path. Tables that are missing on the way are made, of the
origin given. A dotted key does not lead into declared tables; an array of tables is entered
at its last table. -/
def update {α : Type} (made : Origin) (f : Origin → Entries → Option (Entries × α)) :
    (path : List String) → Origin → Entries → Option (Entries × α)
  | [], origin, entries => f origin entries
  | key :: path, _, entries =>
    match entries.find? key with
    | none => do
      let (inner, result) ← update made f path made []
      return (entries ++ [(key, .table made inner)], result)
    | some (.table origin inner) =>
      if made = .dotted ∧ origin = .declared then none
      else do
        let (inner, result) ← update made f path origin inner
        return (entries.replace key (.table origin inner), result)
    | some (.tables done) => do
      let last ← done.getLast?
      let (inner, result) ← update made f path .declared last
      return (entries.replace key (.tables (done.dropLast ++ [inner])), result)
    | some (.value _) => none

def addNew (key : String) (item : Item) (entries : Entries) : Option (Entries × Unit) :=
  if (entries.find? key).isSome then none else some (entries ++ [(key, item)], ())

/-- Adds an entry by its key. A dotted key may add only to tables that dotted keys made, and a
key without dots only to others. -/
def insert (entries : Entries) (path : List String) (key : String) (item : Item) :
    Option Entries :=
  (update .dotted (fun origin inner =>
    if path ≠ [] ∧ origin ≠ .dotted then none else addNew key item inner) path .declared
    entries).map (·.1)

/-- Takes out what a header may open again: a table that was only passed. -/
def reopen (entries : Entries) (path : List String) (key : String) :
    Option (Entries × Entries) :=
  update .passed (fun _ inner =>
    match inner.find? key with
    | none => some (inner, [])
    | some (.table .passed content) => some (inner.remove key, content)
    | some _ => none) path .declared entries

def extend (entries : Entries) (path : List String) (key : String) : Option Entries :=
  (update .passed (fun _ inner =>
    match inner.find? key with
    | none => some (inner ++ [(key, .tables [])], ())
    | some (.tables _) => some (inner, ())
    | some _ => none) path .declared entries).map (·.1)

/-- Puts a table that is complete at its place. -/
def close (entries : Entries) (path : List String) (key : String) (array : Bool)
    (content : Entries) : Option Entries :=
  (update .passed (fun _ inner =>
    if array then
      match inner.find? key with
      | none => some (inner ++ [(key, .tables [content])], ())
      | some (.tables done) => some (inner.replace key (.tables (done ++ [content])), ())
      | some _ => none
    else addNew key (.table .declared content) inner) path .declared entries).map (·.1)

end Entries

mutual

def Item.settled : Item → Value
  | .value value => value
  | .table _ entries => .table (settledEntries entries)
  | .tables done => .tables (settledTables done)

def settledEntries : List (String × Item) → List (String × Value)
  | [] => []
  | (key, item) :: entries => (key, item.settled) :: settledEntries entries

def settledTables : List (List (String × Item)) → List (List (String × Value))
  | [] => []
  | entries :: tables => settledEntries entries :: settledTables tables

end

end DeviceMatrix.Toml
