import DeviceMatrix.Proofs.Json.Records

/-! What a record makes of an object, whatever the object holds and in whatever order. A field looks
only at the values under its own key: one value is read, none leaves the field to its default, and
more than one is refused. So an object is accepted field by field, and members that no field knows
cannot matter. -/
namespace DeviceMatrix.Json

open Record (Field Fields Row Slots)

/-! Values that are skipped. -/

namespace Source

/-- A value whose text is complete, down to the last value inside. A number may be beyond every
double and a text may spell what is no character: that matters only to a reader that wants it. -/
inductive Whole : Source → Prop where
  | null : Whole .null
  | flag (value : Bool) : Whole (.flag value)
  | number (value : Number) : Whole (.number value)
  | text (content : Option String) : Whole (.text content)
  | array {items : List Source} (each : ∀ item ∈ items, Whole item) : Whole (.array items none)
  | object {members : List (Key × Source)} (keys : ∀ member ∈ members, member.1.skip? = none)
      (each : ∀ member ∈ members, Whole member.2) : Whole (.object members none)

-- The cases are those of the skipping reader.
mutual

theorem skip?_eq_none_iff : ∀ source : Source, source.skip? = none ↔ source.Whole
  | .null => ⟨fun _ => .null, fun _ => rfl⟩
  | .flag value => ⟨fun _ => .flag value, fun _ => rfl⟩
  | .number value => ⟨fun _ => .number value, fun _ => rfl⟩
  | .text content => ⟨fun _ => .text content, fun _ => rfl⟩
  | .array items stop => by
    rw [skip?, Option.or_eq_none_iff, skipItems?_eq_none_iff items, Option.map_eq_none_iff]
    constructor
    · rintro ⟨each, rfl⟩
      exact .array each
    · intro whole
      cases whole with
      | array each => exact ⟨each, rfl⟩
  | .object members stop => by
    rw [skip?, Option.or_eq_none_iff, skipMembers?_eq_none_iff members, Option.map_eq_none_iff]
    constructor
    · rintro ⟨⟨keys, each⟩, rfl⟩
      exact .object keys each
    · intro whole
      cases whole with
      | object keys each => exact ⟨⟨keys, each⟩, rfl⟩
  | .keyless _ => ⟨nofun, nofun⟩
  | .misspelt _ => ⟨nofun, nofun⟩
  | .broken _ => ⟨nofun, nofun⟩

theorem skipItems?_eq_none_iff : ∀ items : List Source,
    skipItems? items = none ↔ ∀ item ∈ items, item.Whole
  | [] => by simp [skipItems?]
  | item :: items => by
    rw [skipItems?, Option.or_eq_none_iff, skip?_eq_none_iff item, skipItems?_eq_none_iff items,
      List.forall_mem_cons]

theorem skipMembers?_eq_none_iff : ∀ members : List (Key × Source),
    skipMembers? members = none ↔
      (∀ member ∈ members, member.1.skip? = none) ∧ ∀ member ∈ members, member.2.Whole
  | [] => by simp [skipMembers?]
  | (key, value) :: members => by
    rw [skipMembers?, Option.or_eq_none_iff, Option.or_eq_none_iff, skip?_eq_none_iff value,
      skipMembers?_eq_none_iff members, List.forall_mem_cons, List.forall_mem_cons]
    exact and_and_and_comm

end

end Source

/-! Members by key. -/

def keyed (members : List (String × Source)) : List (Key × Source) :=
  members.map fun (key, value) => (.named key, value)

def objectOf (members : List (String × Source)) : Source := .object (keyed members) none

/-- The values under a key, in their order. -/
def valuesOf (key : String) (members : List (String × Source)) : List Source :=
  (members.filter (·.1 = key)).map (·.2)

def AllWhole (members : List (String × Source)) : Prop := ∀ member ∈ members, member.2.Whole

section Members

variable {key other : String} {value : Source} {members others : List (String × Source)}

theorem keyed_injective (same : keyed members = keyed others) : members = others := by
  refine List.map_injective_iff.mpr ?_ same
  rintro ⟨key, value⟩ ⟨other, content⟩ same
  cases same
  rfl

/-- A member with a text for its key comes before others that have texts as well. -/
theorem cons_eq_keyed_iff {name : Key} {found : List (Key × Source)} :
    (name, value) :: found = keyed members ↔
      ∃ key rest, name = .named key ∧ members = (key, value) :: rest ∧ found = keyed rest := by
  constructor
  · intro same
    cases members with
    | nil => contradiction
    | cons member rest =>
      obtain ⟨key, content⟩ := member
      cases same
      exact ⟨key, rest, rfl, rfl, rfl⟩
  · rintro ⟨key, rest, rfl, rfl, rfl⟩
    rfl

theorem valuesOf_cons_self :
    valuesOf key ((key, value) :: members) = value :: valuesOf key members := by
  simp [valuesOf]

theorem valuesOf_cons_of_ne (apart : key ≠ other) :
    valuesOf other ((key, value) :: members) = valuesOf other members := by
  simp [valuesOf, apart]

theorem valuesOf_append :
    valuesOf key (members ++ others) = valuesOf key members ++ valuesOf key others := by
  simp [valuesOf]

theorem valuesOf_eq_nil (unnamed : key ∉ members.map (·.1)) : valuesOf key members = [] := by
  rw [valuesOf, List.map_eq_nil_iff, List.filter_eq_nil_iff]
  intro member listed
  simpa using ne_of_mem_of_not_mem (List.mem_map_of_mem listed) unnamed

theorem valuesOf_filter (members : List (String × Source)) {known : List String}
    (among : key ∈ known) :
    valuesOf key (members.filter (·.1 ∈ known)) = valuesOf key members := by
  rw [valuesOf, valuesOf, List.filter_filter]
  congr 2
  funext member
  by_cases same : member.1 = key
  · simp [same, among]
  · simp [same]

theorem valuesOf_perm (perm : members.Perm others) :
    (valuesOf key members).Perm (valuesOf key others) := (perm.filter _).map _

end Members

/-! Fields. -/

/-- What a field holds after the values under its key, given what its slot held before them. -/
inductive Gets {α : Type} (field : Field Source α) (slot : Option α) (values : List Source)
    (content : α) : Prop where
  | kept (none : values = []) (filled : slot.or field.absent = some content)
  | given {value : Source} (single : values = [value]) (free : slot = none)
      (read : field.read value = .ok content)

/-- Each field of the row gets its content from the members under its key. -/
def RowGets : {types : List Type} → Fields (Field Source) types → List (String × Source) →
    Slots types → Row types → Prop
  | _, .nil, _, _, _ => True
  | _, .cons field rest, members, (slot, slots), (content, row) =>
    Gets field slot (valuesOf field.key members) content ∧ RowGets rest members slots row

section Gets

variable {α : Type} {field : Field Source α} {slot : Option α} {value : Source}
  {values others : List Source} {content : α}

theorem gets_nil : Gets field slot [] content ↔ slot.or field.absent = some content := by
  constructor
  · intro gets
    cases gets with
    | kept none filled => exact filled
    | given single free read => contradiction
  · exact .kept rfl

theorem gets_cons :
    Gets field slot (value :: values) content ↔
      slot = none ∧ ∃ taken, field.read value = .ok taken ∧
        Gets field (some taken) values content := by
  constructor
  · intro gets
    cases gets with
    | kept none filled => contradiction
    | given single free read =>
      obtain ⟨rfl, rfl⟩ := List.cons.inj single
      exact ⟨free, content, read, gets_nil.mpr rfl⟩
  · rintro ⟨free, taken, read, gets⟩
    cases gets with
    | kept none filled =>
      obtain rfl : taken = content := Option.some.inj filled
      rw [none]
      exact .given rfl free read
    | given single free' read' => contradiction

theorem gets_single : Gets field none [value] content ↔ field.read value = .ok content := by
  constructor
  · intro gets
    cases gets with
    | kept none filled => contradiction
    | given single free read =>
      cases single
      exact read
  · exact .given rfl rfl

theorem Gets.perm (perm : values.Perm others) (gets : Gets field slot values content) :
    Gets field slot others content := by
  cases gets with
  | kept none filled =>
    subst none
    exact .kept perm.symm.eq_nil filled
  | given single free read =>
    subst single
    exact .given (List.perm_singleton.mp perm.symm) free read

theorem exists_gets_iff :
    (∃ content, Gets field none values content) ↔
      values.length ≤ 1 ∧ (∀ value ∈ values, ∃ content, field.read value = .ok content) ∧
        (field.absent = none → values ≠ []) := by
  match values with
  | [] =>
    simp only [gets_nil, Option.none_or]
    cases field.absent <;> simp
  | [value] => simp [gets_single]
  | value :: second :: values =>
    simp only [gets_cons]
    simp

end Gets

section Filling

variable {types : List Type}

theorem finish_eq_ok_iff {fields : Fields (Field Source) types} {slots : Slots types}
    {row : Row types} : fields.finish slots = .ok row ↔ RowGets fields [] slots row := by
  induction fields with
  | nil => exact ⟨fun _ => trivial, fun _ => rfl⟩
  | cons field rest ih =>
    obtain ⟨slot, slots⟩ := slots
    obtain ⟨content, row⟩ := row
    rw [Fields.finish, RowGets, ← ih]
    show _ ↔ Gets field slot [] content ∧ _
    rw [gets_nil]
    cases filled : slot.or field.absent with
    | none => simp
    | some held =>
      constructor
      · intro done
        obtain ⟨row, others, same⟩ := map_ok done
        cases same
        exact ⟨rfl, others⟩
      · rintro ⟨same, others⟩
        cases same
        exact map_eq_ok_iff.mpr ⟨row, others, rfl⟩

theorem rowGets_cons_of_unknown {fields : Fields (Field Source) types} {key : String}
    {value : Source} {members : List (String × Source)} {slots : Slots types} {row : Row types}
    (unknown : key ∉ fields.keys) :
    RowGets fields ((key, value) :: members) slots row ↔ RowGets fields members slots row := by
  induction fields with
  | nil => rfl
  | cons field rest ih =>
    obtain ⟨other, unknown⟩ := not_or.mp (mt List.mem_cons.mpr unknown)
    rw [RowGets, RowGets, valuesOf_cons_of_ne other, ih unknown]

theorem rowGets_cons_of_place {fields : Fields (Field Source) types} {key : String}
    {value : Source} {members : List (String × Source)} {slots : Slots types} {row : Row types}
    {attempt : Except Record.Problem (Slots types)} (distinct : fields.keys.Nodup)
    (placed : fields.place key value slots = some attempt) :
    RowGets fields ((key, value) :: members) slots row ↔
      ∃ filled, attempt = .ok filled ∧ RowGets fields members filled row := by
  induction fields with
  | nil => contradiction
  | cons field rest ih =>
    obtain ⟨slot, slots⟩ := slots
    obtain ⟨content, row⟩ := row
    obtain ⟨fresh, distinct⟩ := List.nodup_cons.mp distinct
    rw [Fields.place] at placed
    rw [RowGets]
    by_cases same : field.key = key
    · subst same
      rw [if_pos rfl] at placed
      obtain rfl := Option.some.inj placed
      rw [valuesOf_cons_self, gets_cons, rowGets_cons_of_unknown fresh]
      cases slot with
      | some held => simp
      | none =>
        constructor
        · rintro ⟨⟨-, taken, read, gets⟩, others⟩
          exact ⟨(some taken, slots), map_eq_ok_iff.mpr ⟨taken, read, rfl⟩, gets, others⟩
        · rintro ⟨filled, done, gets, others⟩
          obtain ⟨taken, read, rfl⟩ := map_ok done
          exact ⟨⟨rfl, taken, read, gets⟩, others⟩
    · rw [if_neg same] at placed
      obtain ⟨others, found, rfl⟩ := Option.map_eq_some_iff.mp placed
      rw [valuesOf_cons_of_ne (Ne.symm same), ih distinct found]
      constructor
      · rintro ⟨gets, filled, rfl, later⟩
        exact ⟨(slot, filled), rfl, gets, later⟩
      · rintro ⟨_, done, gets, later⟩
        obtain ⟨filled, rfl, rfl⟩ := map_ok done
        exact ⟨gets, filled, rfl, later⟩

/-- An object is read as the row in which every field has its content. It must be complete, with a
text for each key, and so must be what stands under a key that no field has. -/
theorem readMembers_eq_ok_iff {fields : Fields (Field Source) types} (distinct : fields.keys.Nodup)
    {stop : Option Fault} {found : List (Key × Source)} {slots : Slots types} {row : Row types} :
    readMembers fields stop found slots = .ok row ↔
      stop = none ∧ ∃ members, found = keyed members ∧
        (∀ member ∈ members, member.1 ∉ fields.keys → member.2.Whole) ∧
        RowGets fields members slots row := by
  induction found generalizing slots with
  | nil =>
    cases stop with
    | some fault =>
      refine iff_of_false ?_ (by simp)
      intro read
      obtain ⟨_, closed, -⟩ := bind_ok read
      cases closed
    | none =>
      rw [readMembers]
      refine finish_eq_ok_iff.trans ?_
      constructor
      · exact fun gets => ⟨rfl, [], rfl, List.forall_mem_nil _, gets⟩
      · rintro ⟨-, members, none, -, gets⟩
        rwa [List.map_eq_nil_iff.mp none.symm] at gets
  | cons member found ih =>
    obtain ⟨name, value⟩ := member
    simp only [cons_eq_keyed_iff]
    cases name with
    | unreadable => simp [readMembers]
    | missing fault => simp [readMembers]
    | named key =>
      rw [readMembers]
      cases placed : fields.place key value slots with
      | none =>
        have unknown := Fields.place_eq_none_iff.mp placed
        dsimp only
        cases skipped : value.skip? with
        | some cause =>
          refine iff_of_false (by simp) ?_
          rintro ⟨-, _, ⟨_, rest, ⟨⟩, rfl, -⟩, whole, -⟩
          have none := (Source.skip?_eq_none_iff value).mpr (whole _ List.mem_cons_self unknown)
          rw [skipped] at none
          contradiction
        | none =>
          refine ih.trans (and_congr_right fun _ => ?_)
          constructor
          · rintro ⟨rest, rfl, whole, gets⟩
            refine ⟨_, ⟨key, rest, rfl, rfl, rfl⟩, ?_, (rowGets_cons_of_unknown unknown).mpr gets⟩
            exact List.forall_mem_cons.mpr
              ⟨fun _ => (Source.skip?_eq_none_iff value).mp skipped, whole⟩
          · rintro ⟨_, ⟨_, rest, ⟨⟩, rfl, rfl⟩, whole, gets⟩
            exact ⟨rest, rfl, (List.forall_mem_cons.mp whole).2,
              (rowGets_cons_of_unknown unknown).mp gets⟩
      | some attempt =>
        have known : key ∈ fields.keys := by
          by_contra unknown
          rw [Fields.place_eq_none_iff.mpr unknown] at placed
          contradiction
        dsimp only
        constructor
        · intro read
          obtain ⟨filled, done, read⟩ := bind_ok read
          obtain ⟨whole, rest, rfl, others, gets⟩ := ih.mp read
          refine ⟨whole, _, ⟨key, rest, rfl, rfl, rfl⟩, ?_, ?_⟩
          · exact List.forall_mem_cons.mpr ⟨fun unknown => absurd known unknown, others⟩
          · exact (rowGets_cons_of_place distinct placed).mpr ⟨filled, done, gets⟩
        · rintro ⟨whole, _, ⟨_, rest, ⟨⟩, rfl, rfl⟩, others, gets⟩
          obtain ⟨filled, rfl, gets⟩ := (rowGets_cons_of_place distinct placed).mp gets
          exact ih.mpr ⟨whole, rest, rfl, (List.forall_mem_cons.mp others).2, gets⟩

end Filling

end DeviceMatrix.Json
