import DeviceMatrix.Proofs.Record.Lookup
import DeviceMatrix.Toml.Document

/-! No table of a document names a key twice, however it is written: in braces, line by line, under
a header, or piece by piece by dotted keys and the headers of its parts. -/
namespace DeviceMatrix.Toml

/-- A value in which no table names a key twice. -/
inductive Value.Distinct : Value → Prop where
  | text (content : String) : Distinct (.text content)
  | integer (value : Int) : Distinct (.integer value)
  | real : Distinct .real
  | flag (value : Bool) : Distinct (.flag value)
  | moment : Distinct .moment
  | array {items : List Value} (each : ∀ item ∈ items, Distinct item) : Distinct (.array items)
  | table {entries : List (String × Value)} (keys : (entries.map (·.1)).Nodup)
      (each : ∀ entry ∈ entries, Distinct entry.2) : Distinct (.table entries)
  | tables {tables : List (List (String × Value))}
      (each : ∀ entries ∈ tables, Distinct (.table entries)) : Distinct (.tables tables)

namespace Value.Distinct

variable {entries : List (String × Value)} (distinct : Value.Distinct (.table entries))

include distinct

theorem keys_nodup : (entries.map (·.1)).Nodup := by
  cases distinct with
  | table keys each => exact keys

theorem lookup {key : String} {value : Value} (found : entries.lookup key = some value) :
    value.Distinct := by
  cases distinct with
  | table keys each => exact each (key, value) (mem_of_lookup found)

theorem filter (keep : String × Value → Bool) : Value.Distinct (.table (entries.filter keep)) := by
  cases distinct with
  | table keys each =>
    refine .table (keys.sublist (List.filter_sublist.map _)) ?_
    exact fun entry listed => each entry (List.mem_of_mem_filter listed)

end Value.Distinct

inductive Item.Distinct : Item → Prop where
  | value {value : Value} (distinct : value.Distinct) : Distinct (.value value)
  | table {origin : Origin} {entries : List (String × Item)} (keys : (entries.map (·.1)).Nodup)
      (each : ∀ entry ∈ entries, Distinct entry.2) : Distinct (.table origin entries)
  | tables {done : List (List (String × Item))}
      (each : ∀ entries ∈ done, Distinct (.table .declared entries)) : Distinct (.tables done)

structure Entries.Distinct (entries : Entries) : Prop where
  keys : (entries.map (·.1)).Nodup
  each : ∀ entry ∈ entries, entry.2.Distinct

theorem Item.distinct_table_iff {origin : Origin} {entries : Entries} :
    Item.Distinct (.table origin entries) ↔ entries.Distinct := by
  constructor
  · intro distinct
    cases distinct with
    | table keys each => exact ⟨keys, each⟩
  · exact fun distinct => .table distinct.keys distinct.each

/-! What is complete. -/

theorem settledEntries_eq_map (entries : Entries) :
    settledEntries entries = entries.map fun entry => (entry.1, entry.2.settled) := by
  induction entries with
  | nil => rfl
  | cons entry entries ih => rw [settledEntries, ih, List.map_cons]

theorem settledTables_eq_map (tables : List Entries) :
    settledTables tables = tables.map settledEntries := by
  induction tables with
  | nil => rfl
  | cons entries tables ih => rw [settledTables, ih, List.map_cons]

theorem Item.Distinct.settled {item : Item} (distinct : item.Distinct) : item.settled.Distinct := by
  induction distinct with
  | value distinct => exact distinct
  | table keys each ih =>
    rw [Item.settled, settledEntries_eq_map]
    refine .table (by simpa [Function.comp_def] using keys) ?_
    exact List.forall_mem_map.mpr ih
  | tables each ih =>
    rw [Item.settled, settledTables_eq_map]
    exact .tables (List.forall_mem_map.mpr ih)

theorem Entries.Distinct.settled {entries : Entries} (distinct : entries.Distinct) :
    Value.Distinct (.table (settledEntries entries)) := by
  have whole : Item.Distinct (.table .declared entries) := Item.distinct_table_iff.mpr distinct
  exact whole.settled

namespace Entries

variable {entries inner content : Entries} {key : String} {item : Item}

theorem distinct_nil : Distinct [] := ⟨List.nodup_nil, nofun⟩

theorem Distinct.find (distinct : entries.Distinct) (found : entries.find? key = some item) :
    item.Distinct :=
  distinct.each (key, item) (mem_of_lookup found)

theorem Distinct.append (distinct : entries.Distinct) (missing : entries.find? key = none)
    (fits : item.Distinct) : Distinct (entries ++ [(key, item)]) where
  keys := by
    rw [List.map_append, List.map_singleton, ← List.concat_eq_append, List.nodup_concat]
    exact ⟨lookup_eq_none_iff_not_mem.mp missing, distinct.keys⟩
  each := by
    intro entry listed
    rcases List.mem_append.mp listed with old | new
    · exact distinct.each entry old
    · rw [List.mem_singleton.mp new]
      exact fits

theorem keys_replace : (entries.replace key item).map (·.1) = entries.map (·.1) := by
  rw [replace, List.map_map]
  refine List.map_congr_left fun entry _ => ?_
  by_cases same : entry.1 = key <;> simp [same]

theorem Distinct.replace (distinct : entries.Distinct) (fits : item.Distinct) :
    Distinct (entries.replace key item) where
  keys := by
    rw [keys_replace]
    exact distinct.keys
  each := by
    intro entry listed
    obtain ⟨old, member, rfl⟩ := List.mem_map.mp listed
    by_cases same : old.1 = key
    · simpa [same] using fits
    · simpa [same] using distinct.each old member

theorem Distinct.remove (distinct : entries.Distinct) : Distinct (entries.remove key) where
  keys := distinct.keys.sublist (List.filter_sublist.map _)
  each entry listed := distinct.each entry (List.mem_of_mem_filter listed)

/-! Working on a table. -/

variable {α : Type} {made : Origin} {f : Origin → Entries → Option (Entries × α)}

/-- What is done to a table keeps its keys apart, and what it gives back is as it should be. -/
def Keeps (fits : α → Prop) (f : Origin → Entries → Option (Entries × α)) : Prop :=
  ∀ origin inner changed result, Distinct inner → f origin inner = some (changed, result) →
    changed.Distinct ∧ fits result

/-- The induction is on the path. At its end stands what `f` keeps; on the way the table that was
gone into is put back in its place, or made behind the others. -/
theorem Keeps.update {fits : α → Prop} (keeps : Keeps fits f) (path : List String) :
    Keeps fits (update made f path) := by
  induction path with
  | nil => exact keeps
  | cons key path ih =>
    intro origin entries changed result distinct done
    rw [Entries.update] at done
    cases found : entries.find? key with
    | none =>
      rw [found] at done
      obtain ⟨⟨inner, _⟩, below, same⟩ := Option.bind_eq_some_iff.mp done
      cases same
      obtain ⟨inside, fitting⟩ := ih _ _ _ _ distinct_nil below
      exact ⟨distinct.append found (Item.distinct_table_iff.mpr inside), fitting⟩
    | some item =>
      have held := distinct.find found
      rw [found] at done
      cases item with
      | value => contradiction
      | table origin table =>
        simp only at done
        split at done
        · contradiction
        · obtain ⟨⟨inner, _⟩, below, same⟩ := Option.bind_eq_some_iff.mp done
          cases same
          obtain ⟨inside, fitting⟩ := ih _ _ _ _ (Item.distinct_table_iff.mp held) below
          exact ⟨distinct.replace (Item.distinct_table_iff.mpr inside), fitting⟩
      | tables tables =>
        cases held with
        | tables each =>
          obtain ⟨last, latest, rest⟩ := Option.bind_eq_some_iff.mp done
          obtain ⟨⟨inner, _⟩, below, same⟩ := Option.bind_eq_some_iff.mp rest
          cases same
          have held := each last (List.mem_of_getLast? latest)
          obtain ⟨inside, fitting⟩ := ih _ _ _ _ (Item.distinct_table_iff.mp held) below
          refine ⟨distinct.replace (.tables (List.forall_mem_append.mpr ⟨?_, ?_⟩)), fitting⟩
          · exact fun entries listed => each entries (List.dropLast_subset _ listed)
          · exact List.forall_mem_singleton.mpr (Item.distinct_table_iff.mpr inside)

theorem Keeps.distinct {f : Origin → Entries → Option (Entries × Unit)}
    (keeps : Keeps (fun _ => True) f) {path : List String} {origin : Origin}
    (distinct : entries.Distinct)
    (done : (Entries.update made f path origin entries).map (·.1) = some inner) :
    inner.Distinct := by
  obtain ⟨⟨changed, result⟩, found, rfl⟩ := Option.map_eq_some_iff.mp done
  exact (keeps.update path _ _ _ _ distinct found).1

theorem Distinct.addNew {result : Unit} (distinct : entries.Distinct) (fits : item.Distinct)
    (done : addNew key item entries = some (inner, result)) : inner.Distinct := by
  rw [Entries.addNew] at done
  split at done
  · contradiction
  next missing =>
    cases done
    rw [Option.not_isSome_iff_eq_none] at missing
    exact distinct.append missing fits

variable {path : List String}

theorem Distinct.insert (distinct : entries.Distinct) (fits : item.Distinct)
    (done : entries.insert path key item = some inner) : inner.Distinct := by
  refine Keeps.distinct ?_ distinct done
  intro origin table changed _ held done
  beta_reduce at done
  split at done
  · contradiction
  · exact ⟨held.addNew fits done, trivial⟩

theorem Distinct.reopen (distinct : entries.Distinct)
    (done : entries.reopen path key = some (inner, content)) :
    inner.Distinct ∧ content.Distinct := by
  refine Keeps.update ?_ path _ _ _ _ distinct done
  intro _ table changed _ held done
  beta_reduce at done
  split at done
  · cases done
    exact ⟨held, distinct_nil⟩
  next found =>
    cases done
    exact ⟨held.remove, Item.distinct_table_iff.mp (held.find found)⟩
  · contradiction

theorem Distinct.extend (distinct : entries.Distinct)
    (done : entries.extend path key = some inner) : inner.Distinct := by
  refine Keeps.distinct ?_ distinct done
  intro _ table changed _ held done
  beta_reduce at done
  split at done
  next missing =>
    cases done
    exact ⟨held.append missing (.tables nofun), trivial⟩
  · cases done
    exact ⟨held, trivial⟩
  · contradiction

theorem Distinct.close {array : Bool} (distinct : entries.Distinct) (fits : content.Distinct)
    (done : entries.close path key array content = some inner) : inner.Distinct := by
  have whole : Item.Distinct (.table .declared content) := Item.distinct_table_iff.mpr fits
  refine Keeps.distinct ?_ distinct done
  intro _ table changed _ held done
  beta_reduce at done
  split at done
  · split at done
    next missing =>
      cases done
      exact ⟨held.append missing (.tables (List.forall_mem_singleton.mpr whole)), trivial⟩
    next tables found =>
      cases done
      cases held.find found with
      | tables each =>
        have both := List.forall_mem_append.mpr ⟨each, List.forall_mem_singleton.mpr whole⟩
        exact ⟨held.replace (.tables both), trivial⟩
    · contradiction
  · exact ⟨held.addNew whole done, trivial⟩

end Entries

/-! Reading. -/

namespace Scan

/-- Whatever the reader reads, no table in it names a key twice. -/
def ReadsDistinct (reader : Reader Value) : Prop :=
  ∀ s value rest, reader s = some (value, rest) → value.Distinct

theorem distinct_word {spelling : String} {value : Value} (fits : value.Distinct) :
    ReadsDistinct (word spelling value) := by
  intro s found rest read
  rw [word] at read
  split at read
  · cases read
    exact fits
  · contradiction

theorem distinct_based {base : Nat} {accepts : Char → Bool} :
    ReadsDistinct (based base accepts) := by
  intro s found rest read
  obtain ⟨⟨digits, left⟩, -, read⟩ := Option.bind_eq_some_iff.mp read
  obtain ⟨-, same⟩ := Option.ite_none_right_eq_some.mp read
  cases same
  exact .integer _

theorem distinct_decimal : ReadsDistinct decimal := by
  intro s found rest read
  simp only [decimal, bind, Option.bind_eq_some_iff] at read
  obtain ⟨_, -, _, -, _, -, read⟩ := read
  split at read
  · obtain ⟨-, same⟩ := Option.ite_none_right_eq_some.mp read
    cases same
    exact .integer _
  · obtain ⟨-, same⟩ := Option.ite_none_left_eq_some.mp read
    cases same
    exact .real

theorem distinct_number : ReadsDistinct number := by
  intro s found rest read
  unfold number at read
  split at read
  · exact distinct_based _ _ _ read
  · exact distinct_based _ _ _ read
  · exact distinct_based _ _ _ read
  · simp only [Option.orElse_eq_or, Option.or_eq_some_iff] at read
    rcases read with infinite | ⟨-, unspelt | ⟨-, read⟩⟩
    · exact distinct_word .real _ _ _ infinite
    · exact distinct_word .real _ _ _ unspelt
    · exact distinct_decimal _ _ _ read

theorem distinct_moment : ReadsDistinct moment := by
  intro s found rest read
  unfold moment at read
  split at read
  · split at read
    · split at read
      · split at read
        · obtain ⟨left, -, same⟩ := Option.map_eq_some_iff.mp read
          cases same
          exact .moment
        · obtain ⟨-, same⟩ := Option.ite_none_right_eq_some.mp read
          cases same
          exact .moment
      · cases read
        exact .moment
    · cases read
      exact .moment
  · obtain ⟨left, -, same⟩ := Option.map_eq_some_iff.mp read
    cases same
    exact .moment

structure ReadsKeys (fuel : Nat) : Prop where
  value : ∀ depth, ReadsDistinct (value fuel depth)
  items : ∀ depth s found rest, items fuel depth s = some (found, rest) →
    ∀ item ∈ found, item.Distinct
  braced : ∀ depth entries s found rest, Entries.Distinct entries →
    braced fuel depth entries s = some (found, rest) → Entries.Distinct found

section

variable {fuel : Nat} (inner : ReadsKeys fuel)

include inner

theorem reads_value (depth : Nat) : ReadsDistinct (value (fuel + 1) depth) := by
  intro s found rest read
  cases s with
  | nil => simp [value] at read
  | cons c left =>
    unfold value at read
    dsimp only at read
    split at read
    · obtain ⟨⟨content, after⟩, -, same⟩ := Option.map_eq_some_iff.mp read
      cases same
      exact .text _
    split at read
    · split at read
      · obtain ⟨⟨content, after⟩, list, same⟩ := Option.map_eq_some_iff.mp read
        cases same
        exact .array (inner.items _ _ _ _ list)
      · contradiction
    split at read
    · split at read
      · obtain ⟨⟨entries, after⟩, table, same⟩ := Option.bind_eq_some_iff.mp read
        cases same
        exact (inner.braced _ _ _ _ _ Entries.distinct_nil table).settled
      · contradiction
    split at read
    · exact distinct_word (.flag true) _ _ _ read
    split at read
    · exact distinct_word (.flag false) _ _ _ read
    split at read
    · exact distinct_moment _ _ _ read
    · exact distinct_number _ _ _ read

theorem reads_items (depth : Nat) (s : List Char) (found : List Value) (rest : List Char)
    (read : items (fuel + 1) depth s = some (found, rest)) : ∀ item ∈ found, item.Distinct := by
  rw [items] at read
  obtain ⟨skipped, -, read⟩ := Option.bind_eq_some_iff.mp read
  split at read
  · cases read
    nofun
  · obtain ⟨⟨item, after⟩, first, read⟩ := Option.bind_eq_some_iff.mp read
    obtain ⟨mark, -, read⟩ := Option.bind_eq_some_iff.mp read
    have distinct := inner.value _ _ _ _ first
    split at read
    · obtain ⟨⟨others, last⟩, more, same⟩ := Option.bind_eq_some_iff.mp read
      cases same
      exact List.forall_mem_cons.mpr ⟨distinct, inner.items _ _ _ _ more⟩
    · cases read
      exact List.forall_mem_singleton.mpr distinct
    · contradiction

theorem reads_braced (depth : Nat) (entries : Entries) (s : List Char) (found : Entries)
    (rest : List Char) (distinct : entries.Distinct)
    (read : braced (fuel + 1) depth entries s = some (found, rest)) : found.Distinct := by
  rw [braced] at read
  split at read
  · obtain ⟨-, same⟩ := Option.ite_none_right_eq_some.mp read
    cases same
    exact distinct
  · simp only [bind, Option.bind_eq_some_iff] at read
    obtain ⟨_, -, _, -, ⟨content, _⟩, first, more, inserted, read⟩ := read
    have grown := distinct.insert (.value (inner.value _ _ _ _ first)) inserted
    split at read
    · split at read
      · contradiction
      · exact inner.braced _ _ _ _ _ grown read
    · cases read
      exact grown
    · contradiction

end

theorem reads_keys (fuel : Nat) : ReadsKeys fuel := by
  induction fuel with
  | zero =>
    refine ⟨?_, ?_, ?_⟩
    · intro depth s found rest read
      simp [value] at read
    · intro depth s found rest read
      simp [items] at read
    · intro depth entries s found rest _ read
      simp [braced] at read
  | succ fuel ih => exact ⟨reads_value ih, reads_items ih, reads_braced ih⟩

end Scan

namespace Draft

structure Distinct (draft : Draft) : Prop where
  root : draft.root.Distinct
  content : draft.content.Distinct

theorem Distinct.close {draft : Draft} {entries : Entries} (distinct : draft.Distinct)
    (done : draft.close = some entries) : entries.Distinct := by
  rw [Draft.close] at done
  split at done
  · cases done
    exact distinct.content
  · exact distinct.root.close distinct.content done

theorem Distinct.openTable {draft next : Draft} {path : List String} {key : String} {array : Bool}
    (distinct : draft.Distinct) (done : draft.openTable path key array = some next) :
    next.Distinct := by
  obtain ⟨root, closed, done⟩ := Option.bind_eq_some_iff.mp done
  have whole := distinct.close closed
  split at done
  · obtain ⟨root, extended, same⟩ := Option.bind_eq_some_iff.mp done
    cases same
    exact ⟨whole.extend extended, Entries.distinct_nil⟩
  · obtain ⟨⟨root, content⟩, reopened, same⟩ := Option.bind_eq_some_iff.mp done
    cases same
    obtain ⟨rest, content⟩ := whole.reopen reopened
    exact ⟨rest, content⟩

/-- The induction is on the lines that may still be read. A header completes the table before it,
and every other line adds to the open one. -/
theorem Distinct.lines {fuel : Nat} {draft final : Draft} {s : List Char}
    (distinct : draft.Distinct) (done : lines fuel draft s = some final) : final.Distinct := by
  induction fuel generalizing draft s with
  | zero => contradiction
  | succ fuel ih =>
    rw [Draft.lines] at done
    split at done
    · cases done
      exact distinct
    · simp only [bind, Option.bind_eq_some_iff] at done
      obtain ⟨_, -, _, -, _, -, _, -, next, opened, done⟩ := done
      exact ih (distinct.openTable opened) done
    · simp only [bind, Option.bind_eq_some_iff] at done
      obtain ⟨_, -, _, -, _, -, next, opened, done⟩ := done
      exact ih (distinct.openTable opened) done
    · obtain ⟨_, -, done⟩ := Option.bind_eq_some_iff.mp done
      exact ih distinct done
    · split at done
      · exact ih distinct done
      · simp only [bind, Option.bind_eq_some_iff] at done
        obtain ⟨_, -, _, -, ⟨value, _⟩, read, _, -, content, inserted, done⟩ := done
        have fits := (Scan.reads_keys _).value _ _ _ _ read
        have next : Draft.Distinct { draft with content } :=
          ⟨distinct.root, distinct.content.insert (.value fits) inserted⟩
        exact ih next done

end Draft

/-- A document is a table like every other. -/
theorem distinct_of_read? {text : List Char} {entries : List (String × Value)}
    (read : read? text = some entries) : Value.Distinct (.table entries) := by
  obtain ⟨draft, done, read⟩ := Option.bind_eq_some_iff.mp read
  obtain ⟨root, closed, same⟩ := Option.bind_eq_some_iff.mp read
  cases same
  have whole := Draft.Distinct.lines ⟨Entries.distinct_nil, Entries.distinct_nil⟩ done
  exact (whole.close closed).settled

end DeviceMatrix.Toml
