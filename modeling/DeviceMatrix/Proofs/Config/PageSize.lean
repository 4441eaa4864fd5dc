import DeviceMatrix.Config.Load
import DeviceMatrix.Proofs.Config.Entries

/-! The page size of a configuration, as its document gives it. It stands in a section of its own,
which may be a table or an array and may be missing, as may the size in it. Whatever stands there is
a positive integer, or the configuration is not accepted. -/
namespace DeviceMatrix.Config

open Record (Problem Row)
open Toml (Value)

variable {key : String} {value : Value}

/-- The first setting of a section, as the entry of a table that it names or the first item of an
array. -/
def setting? (key : String) : Value → Option Value
  | .table entries => entries.lookup key
  | value => value.items?.bind (·.head?)

/-- What a document gives for the page size. -/
def pageSize? (entries : List (String × Value)) : Option Value :=
  (entries.lookup "fetch").bind (setting? "page_size")

theorem eq_integer_of_readWord {least : Nat} {wanted : String} {n : { n : Nat // least ≤ n }}
    (read : readWord least wanted value = .ok n) : value = .integer n.val := by
  cases value with
  | integer given =>
    rw [readWord] at read
    split at read
    · next word =>
      obtain rfl := Except.ok.inj read
      simp [Int.toNat_of_nonneg word.2]
    · contradiction
  | _ => contradiction

/-- The page size is what is given, which must be a positive integer, or else a hundred. -/
def Settles (given : Option Value) (size : PageSize) : Prop :=
  match given with
  | none => size.val = 100
  | some value => value = .integer size.val

theorem settles_of_holds {read : Value → Except Problem PageSize} (look : Value → Option Value)
    {given : Option Value} {size : PageSize}
    (each : ∀ value, read value = .ok size → Settles (look value) size)
    (holds : Holds (defaulted key read defaultPageSize) none given size) :
    Settles (given.bind look) size := by
  cases holds with
  | kept initial => exact congrArg Subtype.val (Option.some.inj initial).symm
  | given _ done => exact each _ done

theorem settles_of_items {items : List Value} {row : Row [PageSize]}
    (done : (fromItems (lengthWanted "FetchConfig" fetchFields) fetchFields 0 items).map (·.1) =
      .ok row) : Settles items.head? row.1 := by
  obtain ⟨⟨found, left⟩, taken, rfl⟩ := map_ok done
  cases items with
  | nil =>
    obtain ⟨rfl, -⟩ := Prod.mk.inj (Except.ok.inj taken)
    rfl
  | cons item items =>
    obtain ⟨size, read, others⟩ := bind_ok taken
    cases others
    exact eq_integer_of_readWord read

theorem settles_of_readFetch {size : PageSize} (done : readFetch value = .ok size) :
    Settles (setting? "page_size" value) size := by
  obtain ⟨row, accepted, rfl⟩ := map_ok done
  cases value with
  | table entries =>
    obtain ⟨holds, -⟩ := rowHolds_of_fromEntries (by decide) accepted
    have settles := settles_of_holds some (fun _ => eq_integer_of_readWord) holds
    rwa [Option.bind_fun_some] at settles
  | moment =>
    cases accepted
    rfl
  | array items => exact settles_of_items accepted
  | tables tables => exact settles_of_items accepted
  | _ => contradiction

/-- Either the section of the page size or the page size in it may be left out. -/
theorem settles_of_parse {text : List Char} {config : Config} (parsed : parse text = .ok config) :
    ∃ entries, Toml.read? text = some entries ∧ Settles (pageSize? entries) config.pageSize := by
  rw [parse] at parsed
  cases document : Toml.read? text with
  | none => simp [document] at parsed
  | some entries =>
    rw [document] at parsed
    refine ⟨entries, rfl, ?_⟩
    obtain ⟨row, accepted, rfl⟩ := map_ok parsed
    obtain ⟨-, holds, -⟩ := rowHolds_of_fromEntries (by decide) accepted
    exact settles_of_holds (setting? "page_size") (fun _ => settles_of_readFetch) holds

end DeviceMatrix.Config
