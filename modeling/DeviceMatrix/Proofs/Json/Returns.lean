import DeviceMatrix.Json.Codec
import DeviceMatrix.Proofs.Json.Tree
import DeviceMatrix.Proofs.Record.Steps
import Mathlib.Data.List.Forall2

/-! Values read from their own writing. `Codec.Returns` says what comes back for one value,
`Codec.Settled` that whatever was read from any source comes back unchanged; likewise for the
members of a record. -/
namespace DeviceMatrix.Json

open Record (Problem)
open Text (Symbol)

variable {α β : Type}

theorem refuse_ne_ok (source : Source) (wanted : String) (content : α) :
    source.refuse wanted ≠ .ok content := by
  intro accepted
  obtain ⟨found, -, thrown⟩ := bind_ok accepted
  contradiction

namespace Codec

/-- What is written for the one value is read as the other. -/
def Returns (codec : Codec α) (content result : α) : Prop :=
  codec.read (codec.write content).source = .ok result

/-- Every value that can be read comes back from its own writing. -/
def Settled (codec : Codec α) : Prop :=
  ∀ source content, codec.read source = .ok content → codec.Returns content content

/-- Null stands for an absent member and is written for no value. -/
def Solid (codec : Codec α) : Prop := ∀ content, (codec.write content).source ≠ .null

/-- Every value there is comes back. -/
def Faithful (codec : Codec α) : Prop := ∀ content, codec.Returns content content

theorem Faithful.settled {codec : Codec α} (faithful : codec.Faithful) : codec.Settled :=
  fun _ content _ => faithful content

theorem text_faithful : text.Faithful := fun _ => rfl

theorem flag_faithful : flag.Faithful := fun _ => rfl

theorem int32_faithful : int32.Faithful := by
  intro value
  have low : Int32.minValue.toInt ≤ value.toInt := value.minValue_le_toInt
  have high : value.toInt ≤ Int32.maxValue.toInt := value.toInt_le
  have minimum : Int32.minValue.toInt = -2147483648 := by decide
  have maximum : Int32.maxValue.toInt = 2147483647 := by decide
  have exact : (Numeral.ofInt value.toInt).number = .integer value.toInt :=
    Numeral.number_ofInt
      (by rw [minimum] at low; simp only [Decimal.maxInteger]; omega)
      (by rw [maximum] at high; simp only [Decimal.maxWord]; omega)
  show int32.read (.number (Numeral.ofInt value.toInt).number) = .ok value
  rw [exact]
  show (if _ then _ else _) = _
  rw [if_pos ⟨low, high⟩, Int32.ofInt_toInt]

theorem text_solid : text.Solid := fun _ => Source.noConfusion

theorem int32_solid : int32.Solid := fun _ => Source.noConfusion

section List

variable {item : Codec α}

theorem mapM_eq_ok_iff {sources : List Source} {contents : List α} :
    sources.mapM item.read = .ok contents ↔
      List.Forall₂ (fun source content => item.read source = .ok content) sources contents := by
  induction sources generalizing contents with
  | nil =>
    rw [List.forall₂_nil_left_iff]
    exact ⟨fun done => (Except.ok.inj done).symm, fun empty => empty ▸ rfl⟩
  | cons source sources ih =>
    rw [List.mapM_cons]
    constructor
    · intro done
      obtain ⟨first, read, done⟩ := bind_ok done
      obtain ⟨rest, others, done⟩ := bind_ok done
      cases done
      exact .cons read (ih.mp others)
    · intro each
      obtain ⟨first, rest, read, others, rfl⟩ := List.forall₂_cons_left_iff.mp each
      rw [read, ih.mpr others]
      rfl

theorem list_returns {contents results : List α}
    (each : List.Forall₂ item.Returns contents results) :
    (list item).Returns contents results := by
  have sources : (Value.itemSources (contents.map item.write)).mapM item.read = .ok results := by
    rw [Value.itemSources_eq, mapM_eq_ok_iff, List.forall₂_map_left_iff,
      List.forall₂_map_left_iff]
    exact each
  show (do
    let contents ← (Value.itemSources (contents.map item.write)).mapM item.read
    closing none
    return contents) = _
  rw [sources]
  rfl

theorem list_returns_map {f : α → α} (back : ∀ content, item.Returns content (f content))
    (contents : List α) : (list item).Returns contents (contents.map f) := by
  apply list_returns
  rw [List.forall₂_map_right_iff, List.forall₂_same]
  exact fun content _ => back content

theorem list_faithful (faithful : item.Faithful) : (list item).Faithful := by
  intro contents
  have back : (list item).Returns contents (contents.map id) :=
    list_returns_map faithful contents
  rwa [List.map_id] at back

theorem Settled.each (settled : item.Settled) {sources : List Source} {contents : List α}
    (read : List.Forall₂ (fun source content => item.read source = .ok content) sources contents) :
    List.Forall₂ item.Returns contents contents := by
  induction read with
  | nil => exact .nil
  | cons first _ rest => exact .cons (settled _ _ first) rest

theorem list_settled (settled : item.Settled) : (list item).Settled := by
  intro source contents read
  cases source with
  | array sources stop =>
    obtain ⟨items, each, read⟩ := bind_ok read
    obtain ⟨-, -, read⟩ := bind_ok read
    cases read
    exact list_returns (settled.each (mapM_eq_ok_iff.mp each))
  | _ => exact absurd read (refuse_ne_ok _ _ _)

end List

section Mapped

variable {codec : Codec α} {make : α → β} {view : β → α}

theorem mapped_returns {content : β} {result : α} (back : codec.Returns (view content) result) :
    (codec.mapped make view).Returns content (make result) := by
  show (codec.read (codec.write (view content)).source).map make = _
  rw [show codec.read _ = _ from back]
  rfl

theorem mapped_settled (settled : codec.Settled) (same : ∀ content, view (make content) = content) :
    (codec.mapped make view).Settled := by
  intro source content read
  obtain ⟨inner, accepted, rfl⟩ := map_ok read
  have back : codec.Returns (view (make inner)) inner := by
    rw [same inner]
    exact settled source inner accepted
  exact mapped_returns back

end Mapped

end Codec

namespace Member

/-- What is written for the one content is read as the other; where nothing is written, the
absent member stands for it. -/
def Returns (member : Member α) (content result : α) : Prop :=
  match member.write content with
  | some value => member.read value.source = .ok result
  | none => member.absent = some result

/-- Whatever a record can hold in this place comes back from its own writing. -/
structure Settled (member : Member α) : Prop where
  read : ∀ source content, member.read source = .ok content → member.Returns content content
  absent : ∀ content, member.absent = some content → member.Returns content content
  beyond : ∀ content, member.beyond = some content → member.Returns content content

variable {key : String} {codec : Codec α}

theorem required_returns {content result : α} (back : codec.Returns content result) :
    (required key codec).Returns content result := back

theorem defaulted_returns {initial content result : α} (back : codec.Returns content result) :
    (defaulted key codec initial).Returns content result := back

theorem defaulted_settled {initial : α} (settled : codec.Settled)
    (back : codec.Returns initial initial) : (defaulted key codec initial).Settled where
  read := settled
  absent _ absent := Option.some.inj absent ▸ back
  beyond _ beyond := Option.some.inj beyond ▸ back

theorem optional_read_of_ne_null {source : Source} (present : source ≠ .null) :
    (optional key codec).read source = (codec.read source).map some := by
  cases source with
  | null => contradiction
  | _ => rfl

theorem optional_returns_none : (optional key codec).Returns none none := rfl

theorem optional_returns_some {content result : α} (solid : codec.Solid)
    (back : codec.Returns content result) :
    (optional key codec).Returns (some content) (some result) := by
  show (optional key codec).read (codec.write content).source = _
  rw [optional_read_of_ne_null (solid content), show codec.read _ = _ from back]
  rfl

theorem optional_returns_map {f : α → α} (solid : codec.Solid)
    (back : ∀ content, codec.Returns content (f content)) (content : Option α) :
    (optional key codec).Returns content (content.map f) := by
  cases content with
  | none => exact optional_returns_none
  | some content => exact optional_returns_some solid (back content)

theorem optional_returns_self (solid : codec.Solid) (faithful : codec.Faithful)
    (content : Option α) : (optional key codec).Returns content content := by
  have back : (optional key codec).Returns content (content.map id) :=
    optional_returns_map solid faithful content
  rwa [Option.map_id] at back

theorem optional_settled (solid : codec.Solid) (settled : codec.Settled) :
    (optional key codec).Settled where
  read := by
    intro source content read
    by_cases null : source = .null
    · subst null
      cases read
      exact optional_returns_none
    · rw [optional_read_of_ne_null null] at read
      obtain ⟨inner, accepted, rfl⟩ := map_ok read
      exact optional_returns_some solid (settled source inner accepted)
  absent _ absent := Option.some.inj absent ▸ optional_returns_none
  beyond _ beyond := Option.some.inj beyond ▸ optional_returns_none

end Member

namespace Codec

/-! Whole texts. -/

variable {codec : Codec α}

theorem readText_eq_read {text : List Symbol} {source : Source}
    (document : Json.read text = ⟨source, false⟩) : codec.readText text = codec.read source := by
  rw [readText, document]
  show (codec.read source >>= fun content => pure content) = _
  cases codec.read source <;> rfl

/-- A text that holds what was written for a value, in any layout, gives what comes back for it. -/
theorem readText_of_read {content result : α} {text : List Symbol}
    (document : Json.read text = ⟨(codec.write content).source, false⟩)
    (back : codec.Returns content result) : codec.readText text = .ok result :=
  (readText_eq_read document).trans back

theorem readText_print {content result : α} (back : codec.Returns content result) :
    codec.readText (Symbol.ofString (codec.print content)) = .ok result := by
  apply readText_of_read _ back
  rw [Symbol.ofString, print, Value.compact, String.toList_ofList]
  exact read_print _

theorem read_of_readText {text : List Symbol} {content : α}
    (done : codec.readText text = .ok content) :
    ∃ source, codec.read source = .ok content := by
  obtain ⟨result, accepted, done⟩ := bind_ok done
  refine ⟨(Json.read text).value, ?_⟩
  split at done
  · contradiction
  · cases done
    exact accepted

/-- Every value comes back from the text printed for it, in its canonical form. What was read from
any text comes back unchanged, and is printed as the same text again. -/
structure RoundTrips (codec : Codec α) (canonical : α → α) : Prop where
  printed : ∀ content,
    codec.readText (Symbol.ofString (codec.print content)) = .ok (canonical content)
  reread : ∀ text content, codec.readText text = .ok content →
    codec.readText (Symbol.ofString (codec.print content)) = .ok content ∧
      (codec.readText (Symbol.ofString (codec.print content))).map codec.print =
        .ok (codec.print content)

theorem roundTrips {canonical : α → α} (back : ∀ content, codec.Returns content (canonical content))
    (settled : codec.Settled) : codec.RoundTrips canonical where
  printed content := readText_print (back content)
  reread text content done := by
    obtain ⟨source, accepted⟩ := read_of_readText done
    have again := readText_print (settled source content accepted)
    exact ⟨again, by rw [again]; rfl⟩

theorem Faithful.roundTrips (faithful : codec.Faithful) : codec.RoundTrips id :=
  Codec.roundTrips faithful faithful.settled

end Codec

end DeviceMatrix.Json
