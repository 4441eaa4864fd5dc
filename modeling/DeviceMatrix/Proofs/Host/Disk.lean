import DeviceMatrix.Host.Disk
import DeviceMatrix.Proofs.Record.Lookup
import Mathlib.Logic.Relation

/-! What the operations on a disk change. Every operation that succeeds leaves the directories
directories, so that paths lead where they led before; apart from that it changes the locations
that its own paths lead to. -/
namespace DeviceMatrix.Host

namespace Path

def Parent (path parent : String) : Prop := parent? path = some parent

/-- A path that another one stands in: its parent, or one further up. -/
def Above : String → String → Prop := Relation.TransGen Parent

end Path

namespace Disk

theorem endsWith_of_namesFile {path : String} (named : namesFile path) :
    path.endsWith "/" = false := by
  rw [Bool.eq_false_iff]
  intro ends
  have slash : ['/'] <:+ path.toSlice.copy.toList := String.Slice.endsWith_string_iff.1 ends
  rw [String.copy_toSlice] at slash
  obtain ⟨front, shape⟩ := slash
  have last : (Path.names path).getLast? = some "" := by
    rw [Path.names, ← shape, List.splitOn_append_cons_self]
    simp
  simp [namesFile, last] at named

section

variable {disk later final : Disk} {directory location next : Location} {path name : String}

theorem node?_put (node : Node) (other : Location) :
    (disk.put location node).node? other =
      if other = location then some node else disk.node? other := by
  by_cases same : other = location
  · simp [node?, put, same]
  · have differs : (other == location) = false := by simpa using same
    simp only [node?, put, List.lookup_cons, differs, lookup_filter_ne same, if_neg same]

@[simp] theorem node?_put_self (node : Node) :
    (disk.put location node).node? location = some node := by
  rw [node?_put, if_pos rfl]

theorem eq_of_node?_put_ne {node : Node} {other : Location}
    (changed : (disk.put location node).node? other ≠ disk.node? other) : other = location := by
  by_cases same : other = location
  · exact same
  · exact absurd (by rw [node?_put, if_neg same]) changed

/-- The directories of the one disk are directories of the other. -/
def Keeps (disk later : Disk) : Prop :=
  ∀ location, disk.node? location = some .directory → later.node? location = some .directory

theorem Keeps.refl (disk : Disk) : disk.Keeps disk := fun _ => id

theorem Keeps.trans (first : disk.Keeps later) (second : later.Keeps final) : disk.Keeps final :=
  fun location standing => second location (first location standing)

theorem keeps_put {node : Node} (free : disk.node? location ≠ some .directory) :
    disk.Keeps (disk.put location node) := by
  intro other standing
  have apart : other ≠ location := fun same => free (same ▸ standing)
  rw [node?_put, if_neg apart, standing]

theorem node?_of_enter (entered : disk.enter location name = .ok next) :
    disk.node? location = some .directory := by
  unfold enter at entered
  split at entered
  · contradiction
  · assumption
  · contradiction

theorem Keeps.enter (keeps : disk.Keeps later) (entered : disk.enter location name = .ok next) :
    later.enter location name = .ok next := by
  have standing := node?_of_enter entered
  unfold Disk.enter at entered ⊢
  rw [standing] at entered
  rw [keeps location standing]
  exact entered

theorem Keeps.follow (keeps : disk.Keeps later) : ∀ {names : List String} {start : Location},
    names.foldlM disk.enter start = .ok location → names.foldlM later.enter start = .ok location
  | [], _, followed => followed
  | name :: names, start, followed => by
    rw [List.foldlM_cons] at followed ⊢
    cases entered : disk.enter start name with
    | error error => rw [entered] at followed; contradiction
    | ok next =>
      rw [entered] at followed
      rw [keeps.enter entered]
      exact keeps.follow followed

/-- A path that leads somewhere still leads there if directories stay what they are. -/
theorem Keeps.locate (keeps : disk.Keeps later)
    (located : disk.locate directory path = .ok location) :
    later.locate directory path = .ok location := by
  unfold Disk.locate at located ⊢
  cases routed : route directory path with
  | error error => rw [routed] at located; contradiction
  | ok way => rw [routed] at located; exact keeps.follow located

theorem find_of_locate (located : disk.locate directory path = .ok location)
    (plain : path.endsWith "/" = false) :
    disk.find directory path = (disk.node? location).elim (.error .notFound) .ok := by
  rw [find, located]
  cases held : disk.node? location with
  | none => simp [bind, Except.bind, held, throw, throwThe, MonadExceptOf.throw]
  | some node => cases node <;> simp [bind, Except.bind, held, plain, pure, Except.pure]

theorem dropLast_append_of_namesFile {start : Location} {names : List String}
    (routed : route directory path = .ok (start, names)) (named : namesFile path) :
    names.dropLast ++ [names.getLastD ""] = names := by
  have shape : names = (Path.names path).filter (· ≠ "") := by
    unfold route at routed
    split at routed <;> try contradiction
    split at routed <;> try contradiction
    split at routed <;> try contradiction
    exact (congrArg Prod.snd (Except.ok.inj routed)).symm
  have filled : names ≠ [] := by
    unfold namesFile at named
    split at named
    · next name last =>
      have spelled : name ≠ "" := by
        rintro rfl
        contradiction
      have member : name ∈ names := by
        rw [shape]
        exact List.mem_filter.2 ⟨List.mem_of_getLast? last, by simpa using spelled⟩
      exact List.ne_nil_of_mem member
    · contradiction
  rw [List.getLastD_eq_getLast?, List.getLast?_eq_some_getLast filled]
  exact List.dropLast_concat_getLast filled

theorem locate_of_target {node : Option Node}
    (aimed : disk.target directory path = .ok (location, node)) :
    disk.locate directory path = .ok location ∧ namesFile path ∧
      disk.node? location = node ∧ node ≠ some .directory := by
  unfold target at aimed
  cases routed : route directory path with
  | error error => rw [routed] at aimed; contradiction
  | ok way =>
    obtain ⟨start, names⟩ := way
    simp only [routed, bind, Except.bind] at aimed
    split at aimed
    · contradiction
    next parent followed =>
    split at aimed
    · contradiction
    by_cases named : namesFile path
    · rw [if_pos named] at aimed
      split at aimed
      · contradiction
      next last entered =>
      have located : disk.locate directory path = .ok last := by
        rw [locate, routed, ← dropLast_append_of_namesFile routed named]
        simp only [bind, Except.bind, List.foldlM_append, followed, List.foldlM_cons, entered]
        rfl
      split at aimed
      · contradiction
      · next free =>
        obtain ⟨rfl, rfl⟩ := Prod.mk.inj (Except.ok.inj aimed)
        exact ⟨located, named, rfl, free⟩
    · rw [if_neg named] at aimed
      contradiction

/-- What writing to a path did: nothing to a disk on which a device stands there, and otherwise
the file stands there now, where no directory was. -/
structure Wrote (disk : Disk) (directory : Location) (path : String) (content : List UInt8)
    (location : Location) (later : Disk) : Prop where
  located : disk.locate directory path = .ok location
  plain : path.endsWith "/" = false
  placed : (∃ device, disk.node? location = some (.device device) ∧ later = disk) ∨
    (disk.node? location ≠ some .directory ∧ later = disk.put location (.file content))

theorem wrote_of_write {content : List UInt8}
    (written : disk.write directory path content = .ok later) :
    ∃ location, Wrote disk directory path content location later := by
  unfold write at written
  cases aimed : disk.target directory path with
  | error error => rw [aimed] at written; contradiction
  | ok aim =>
    obtain ⟨location, node⟩ := aim
    obtain ⟨located, named, held, free⟩ := locate_of_target aimed
    refine ⟨location, located, endsWith_of_namesFile named, ?_⟩
    have same (device : Device) (taken : node = some (.device device))
        (done : Except.ok disk = .ok (ε := IoError) later) :
        ∃ device, disk.node? location = some (.device device) ∧ later = disk :=
      ⟨device, held.trans taken, (Except.ok.inj done).symm⟩
    simp only [aimed, bind, Except.bind] at written
    split at written
    next shape => exact .inl (same .null (Prod.mk.inj shape).2 written)
    next shape => exact .inl (same .zero (Prod.mk.inj shape).2 written)
    next => contradiction
    next shape =>
      split at written
      · exact .inl (same .full (Prod.mk.inj shape).2 written)
      · contradiction
    next shape =>
      obtain ⟨rfl, -⟩ := Prod.mk.inj shape
      exact .inr ⟨held ▸ free, (Except.ok.inj written).symm⟩

theorem wrote_of_find {device : Device} {content : List UInt8}
    (found : disk.find directory path = .ok (.device device)) :
    ∃ location, Wrote disk directory path content location disk := by
  unfold find at found
  cases located : disk.locate directory path with
  | error error => rw [located] at found; contradiction
  | ok location =>
    simp only [located, bind, Except.bind] at found
    split at found
    · contradiction
    · exact nomatch Except.ok.inj found
    · next node distinct held =>
      split at found
      · contradiction
      · next plain =>
        obtain rfl := Except.ok.inj found
        exact ⟨location, located, by simpa using plain, .inl ⟨device, held, rfl⟩⟩

namespace Wrote

variable {content : List UInt8}

theorem keeps (wrote : Wrote disk directory path content location later) : disk.Keeps later := by
  obtain ⟨device, -, rfl⟩ | ⟨free, rfl⟩ := wrote.placed
  · exact .refl _
  · exact keeps_put free

theorem changes (wrote : Wrote disk directory path content location later) {other : Location}
    (changed : later.node? other ≠ disk.node? other) :
    other = location ∧ later.node? other = some (.file content) := by
  obtain ⟨device, -, rfl⟩ | ⟨free, rfl⟩ := wrote.placed
  · exact absurd rfl changed
  · obtain rfl := eq_of_node?_put_ne changed
    exact ⟨rfl, node?_put_self _⟩

theorem find_later (wrote : Wrote disk directory path content location later) :
    later.find directory path = .ok (.file content) ∨
      ∃ device, disk.node? location = some (.device device) ∧
        later.find directory path = .ok (.device device) := by
  have found := find_of_locate (wrote.keeps.locate wrote.located) wrote.plain
  obtain ⟨device, held, rfl⟩ | ⟨free, rfl⟩ := wrote.placed
  · exact .inr ⟨device, held, by rw [found, held]; rfl⟩
  · exact .inl (by rw [found, node?_put_self]; rfl)

/-- What is read back is what was written, unless a device stands there. -/
theorem read_later (wrote : Wrote disk directory path content location later) :
    later.read directory path = .ok content ∨
      ∃ device, later.find directory path = .ok (.device device) := by
  obtain found | ⟨device, -, found⟩ := wrote.find_later
  · exact .inl (by rw [read, found]; rfl)
  · exact .inr ⟨device, found⟩

/-- Where a path names nothing, a new file is made, and it is read back. -/
theorem fresh (wrote : Wrote disk directory path content location later)
    (absent : (disk.find directory path).isOk = false) :
    disk.node? location = none ∧ later.read directory path = .ok content := by
  have free : disk.node? location = none := by
    cases held : disk.node? location with
    | none => rfl
    | some node =>
      rw [find_of_locate wrote.located wrote.plain, held] at absent
      contradiction
  obtain found | ⟨device, held, -⟩ := wrote.find_later
  · exact ⟨free, by rw [read, found]; rfl⟩
  · rw [free] at held
    contradiction

end Wrote

/-- Directories were made, each where one of the paths leads and nothing was. -/
structure Made (disk : Disk) (directory : Location) (paths : String → Prop) (later : Disk) :
    Prop where
  keeps : disk.Keeps later
  changes : ∀ location, later.node? location ≠ disk.node? location →
    disk.node? location = none ∧ later.node? location = some .directory ∧
      ∃ path, paths path ∧ later.locate directory path = .ok location

namespace Made

variable {paths : String → Prop}

theorem refl (disk : Disk) : Made disk directory paths disk :=
  ⟨.refl disk, fun _ changed => absurd rfl changed⟩

theorem mono {more : String → Prop} (made : Made disk directory paths later)
    (within : ∀ path, paths path → more path) : Made disk directory more later := by
  refine ⟨made.keeps, fun location changed => ?_⟩
  obtain ⟨free, standing, path, listed, located⟩ := made.changes location changed
  exact ⟨free, standing, path, within path listed, located⟩

theorem trans (first : Made disk directory paths later)
    (second : Made later directory paths final) :
    Made disk directory paths final := by
  refine ⟨first.keeps.trans second.keeps, fun location changed => ?_⟩
  by_cases early : later.node? location = disk.node? location
  · obtain ⟨free, rest⟩ := second.changes location (early ▸ changed)
    exact ⟨early ▸ free, rest⟩
  · obtain ⟨free, standing, path, listed, located⟩ := first.changes location early
    exact ⟨free, second.keeps location standing, path, listed, second.keeps.locate located⟩

end Made

theorem made_of_makeDirectory (done : disk.makeDirectory directory path = .ok later) :
    Made disk directory (· = path) later := by
  unfold makeDirectory at done
  cases located : disk.locate directory path with
  | error error => rw [located] at done; contradiction
  | ok location =>
    simp only [located, bind, Except.bind] at done
    cases held : disk.node? location with
    | some node => rw [held] at done; contradiction
    | none =>
      rw [held] at done
      obtain rfl := Except.ok.inj done
      have keeps : disk.Keeps (disk.put location .directory) := keeps_put (by rw [held]; nofun)
      refine ⟨keeps, fun other changed => ?_⟩
      obtain rfl := eq_of_node?_put_ne changed
      exact ⟨held, node?_put_self _, path, rfl, keeps.locate located⟩

theorem made_of_ensureDirectory (done : disk.ensureDirectory directory path = .ok later) :
    Made disk directory (· = path) later := by
  unfold ensureDirectory at done
  split at done
  · split at done
    · obtain rfl := Except.ok.inj done
      exact .refl _
    · contradiction
  · exact made_of_makeDirectory done

/-- On the way up from a path only it and the paths above it are made, however far it went. -/
theorem made_ensureAll (directory : Location) (depth : Nat) : ∀ (path : String) (disk : Disk),
    Made disk directory (Relation.ReflTransGen Path.Parent path)
      (ensureAll directory depth path disk).1 := by
  induction depth with
  | zero => exact fun _ _ => .refl _
  | succ depth ih =>
    intro path disk
    have own {later final : Disk} (made : Made later directory (· = path) final) :
        Made later directory (Relation.ReflTransGen Path.Parent path) final :=
      made.mono fun _ same => same ▸ .refl
    unfold ensureAll
    split
    · exact .refl _
    split
    · next done => exact own (made_of_makeDirectory done)
    · split
      · exact .refl _
      · next parent stands =>
        have above : Made disk directory (Relation.ReflTransGen Path.Parent path)
            (ensureAll directory depth parent disk).1 :=
          (ih parent disk).mono fun _ reached => .head stands reached
        split
        · next shape => rw [shape] at above; exact above
        · next shape =>
          rw [shape] at above
          split
          · next done => exact above.trans (own (made_of_ensureDirectory done))
          · exact above
    · split <;> exact .refl _

end
end Disk
end DeviceMatrix.Host
