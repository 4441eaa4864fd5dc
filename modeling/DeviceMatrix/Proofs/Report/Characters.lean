import DeviceMatrix.Proofs.Report.ReadBack
import DeviceMatrix.Proofs.Summary.Shown

/-! The characters of a JUnit document. Escaping is about the five characters that mean something
in markup and leaves all others as they are, so that a character which no XML document may hold is
in a document exactly if it is in one of the texts that the document was made from. -/
namespace DeviceMatrix.Report

namespace Markup

/-- The characters that a document of XML 1.0 may hold. -/
def Allowed (c : Char) : Prop :=
  c = '\t' ∨ c = '\n' ∨ c = '\r' ∨ (0x20 ≤ c.toNat ∧ c.toNat ≤ 0xd7ff) ∨
    (0xe000 ≤ c.toNat ∧ c.toNat ≤ 0xfffd) ∨ (0x10000 ≤ c.toNat ∧ c.toNat ≤ 0x10ffff)

instance : DecidablePred Allowed := fun _ => inferInstanceAs (Decidable (_ ∨ _))

/-- All characters of a text are allowed. -/
def Clean (text : String) : Prop := ∀ c ∈ text.toList, Allowed c

instance (text : String) : Decidable (Clean text) := List.decidableBAll Allowed text.toList

def Mentions (c : Char) (texts : List String) : Prop := ∃ text ∈ texts, c ∈ text.toList

theorem mentions_nil (c : Char) : ¬Mentions c [] := by simp [Mentions]

theorem mentions_cons {c : Char} {text : String} {texts : List String} :
    Mentions c (text :: texts) ↔ c ∈ text.toList ∨ Mentions c texts := by
  simp [Mentions]

theorem mentions_append {c : Char} {texts others : List String} :
    Mentions c (texts ++ others) ↔ Mentions c texts ∨ Mentions c others := by
  simp [Mentions, or_and_right, exists_or]

end Markup

namespace Element

open Markup

def attributeTexts (attributes : List (String × String)) : List String :=
  attributes.flatMap fun (key, value) => [key, value]

mutual

/-- All texts of an element: its name, its attributes with their values, and what is in it. -/
def texts : Element → List String
  | empty name attributes => name :: attributeTexts attributes
  | text name content => [name, content]
  | parent name attributes children => name :: attributeTexts attributes ++ allTexts children

def allTexts : List Element → List String
  | [] => []
  | element :: elements => element.texts ++ allTexts elements

end

section

variable {c : Char} (forbidden : ¬Allowed c)

include forbidden

theorem ne_of_forbidden {d : Char} (allowed : Allowed d) : c ≠ d := by
  rintro rfl
  exact forbidden allowed

theorem ne_mark_of_forbidden : c ≠ '<' ∧ c ≠ '>' ∧ c ≠ '/' :=
  ⟨ne_of_forbidden forbidden (by decide), ne_of_forbidden forbidden (by decide),
    ne_of_forbidden forbidden (by decide)⟩

theorem mem_escape_iff (d : Char) : c ∈ escape d ↔ c = d := by
  have spelled {word : List Char} (clean : Clean (String.ofList word)) {d : Char}
      (plain : Allowed d) : c ∈ word ↔ c = d := by
    rw [Clean, String.toList_ofList] at clean
    exact ⟨fun member => absurd (clean c member) forbidden,
      fun same => absurd (same ▸ plain) forbidden⟩
  unfold escape
  split
  · exact spelled (by decide) (by decide)
  · exact spelled (by decide) (by decide)
  · exact spelled (by decide) (by decide)
  · exact spelled (by decide) (by decide)
  · exact spelled (by decide) (by decide)
  · exact List.mem_singleton

theorem mem_escaped_iff (text : String) : c ∈ escaped text ↔ c ∈ text.toList := by
  simp [escaped, List.mem_flatMap, mem_escape_iff forbidden]

theorem mem_printAttributes_iff (attributes : List (String × String)) :
    c ∈ printAttributes attributes ↔ Mentions c (attributeTexts attributes) := by
  have blank := ne_of_forbidden forbidden (d := ' ') (by decide)
  have equals := ne_of_forbidden forbidden (d := '=') (by decide)
  have quote := ne_of_forbidden forbidden (d := '"') (by decide)
  induction attributes with
  | nil => simp [printAttributes, attributeTexts, Mentions]
  | cons entry attributes ih =>
    obtain ⟨key, value⟩ := entry
    have printed : printAttributes ((key, value) :: attributes) = ' ' :: (key.toList ++
        '=' :: '"' :: (escaped value ++ '"' :: printAttributes attributes)) := by
      simp [printAttributes]
    have held : attributeTexts ((key, value) :: attributes) =
        key :: value :: attributeTexts attributes := rfl
    simp [printed, held, mentions_cons, mem_escaped_iff forbidden, ih, blank, equals, quote]

theorem not_mem_newLine (depth : Nat) : c ∉ newLine depth := by
  intro member
  rcases mem_newLine member with rfl | rfl <;> exact forbidden (by decide)

end

-- The cases are those of the printer: what it adds to the texts are allowed characters.
mutual

theorem mem_print_iff {c : Char} (forbidden : ¬Allowed c) (depth : Nat) : ∀ element : Element,
    c ∈ element.print depth ↔ Mentions c element.texts
  | .empty name attributes => by
    obtain ⟨less, greater, slash⟩ := ne_mark_of_forbidden forbidden
    simp [print, texts, not_mem_newLine forbidden, mem_printAttributes_iff forbidden,
      mentions_cons, less, greater, slash]
  | .text name content => by
    obtain ⟨less, greater, slash⟩ := ne_mark_of_forbidden forbidden
    have none := mem_printAttributes_iff forbidden []
    simp [print, texts, openTag, closeTag, none, attributeTexts, not_mem_newLine forbidden,
      mem_escaped_iff forbidden, mentions_cons, mentions_nil, less, greater, slash]
    tauto
  | .parent name attributes children => by
    obtain ⟨less, greater, slash⟩ := ne_mark_of_forbidden forbidden
    simp [print, texts, openTag, closeTag, not_mem_newLine forbidden,
      mem_printAttributes_iff forbidden, mem_printAll_iff forbidden (depth + 1) children,
      mentions_cons, mentions_append, less, greater, slash]
    tauto

theorem mem_printAll_iff {c : Char} (forbidden : ¬Allowed c) (depth : Nat) :
    ∀ elements : List Element, c ∈ printAll depth elements ↔ Mentions c (allTexts elements)
  | [] => by simp [printAll, allTexts, mentions_nil]
  | element :: elements => by
    simp [printAll, allTexts, mentions_append, mem_print_iff forbidden depth element,
      mem_printAll_iff forbidden depth elements]

end

end Element

namespace Junit

open Markup

theorem clean_of_mem_names : ∀ name ∈ names, Clean name := by decide

theorem clean_of_legible {text : String} (legible : Legible text) : Clean text := by
  intro c member
  have bounds := legible c member
  simp only [Printable] at bounds
  exact .inr (.inr (.inr (.inl (by omega))))

section

variable {c : Char} (forbidden : ¬Allowed c)

include forbidden

theorem not_mem_of_clean {text : String} (clean : Clean text) : c ∉ text.toList :=
  fun member => forbidden (clean c member)

theorem mentions_amid (before behind : List String) (front : ∀ text ∈ before, Clean text)
    (back : ∀ text ∈ behind, Clean text) (text : String) :
    Mentions c (before ++ text :: behind) ↔ c ∈ text.toList := by
  have none {texts : List String} (clean : ∀ text ∈ texts, Clean text) : ¬Mentions c texts := by
    rintro ⟨text, member, within⟩
    exact not_mem_of_clean forbidden (clean text member) within
  rw [mentions_append, mentions_cons]
  simp [none front, none back]

theorem not_mentions_totals (rows : List TestOutcome) :
    ¬Mentions c (Element.attributeTexts (totals rows)) := by
  have known : ∀ text ∈ ["tests", "failures", "errors", "skipped"], Clean text := by decide
  rintro ⟨text, member, within⟩
  refine not_mem_of_clean forbidden ?_ within
  simp only [List.forall_mem_cons] at known
  simp only [totals, count, Element.attributeTexts, List.flatMap_cons, List.flatMap_nil,
    List.cons_append, List.nil_append, List.mem_cons, List.not_mem_nil, or_false] at member
  rcases member with rfl | rfl | rfl | rfl | rfl | rfl | rfl | rfl
  · exact known.1
  · exact clean_of_legible (legible_ofNat _)
  · exact known.2.1
  · exact clean_of_legible (legible_ofNat _)
  · exact known.2.2.1
  · exact clean_of_legible (legible_ofNat _)
  · exact known.2.2.2.1
  · exact clean_of_legible (legible_ofNat _)

theorem mentions_verdict (row : TestOutcome) :
    Mentions c (verdict row).texts ↔ c ∈ row.details.toList := by
  obtain ⟨label, axisValue, details⟩ := row
  have amid (before behind : List String) (front : ∀ text ∈ before, Clean text)
      (back : ∀ text ∈ behind, Clean text) :=
    mentions_amid forbidden before behind front back details
  cases label with
  | passed => exact amid ["system-out"] [] (by decide) (by decide)
  | failed => exact amid ["failure", "message"] ["type", "Failed"] (by decide) (by decide)
  | inconclusive =>
    exact amid ["error", "message"] ["type", "Inconclusive"] (by decide) (by decide)
  | unknown => exact amid ["error", "message"] ["type", "Unknown"] (by decide) (by decide)
  | skipped => exact amid ["skipped", "message"] [] (by decide) (by decide)

theorem mentions_testCase (suite : String) (row : TestOutcome) :
    Mentions c (testCase suite row).texts ↔
      c ∈ suite.toList ∨ c ∈ row.axisValue.toList ∨ c ∈ row.details.toList := by
  have shape : (testCase suite row).texts = (["testcase", "classname"] ++ suite :: []) ++
      ((["name"] ++ row.axisValue :: []) ++ (verdict row).texts) := by
    simp [testCase, Element.texts, Element.allTexts, Element.attributeTexts]
  have suite := mentions_amid forbidden ["testcase", "classname"] [] (by decide)
    (List.forall_mem_nil _) suite
  have axis := mentions_amid forbidden ["name"] [] (by decide)
    (List.forall_mem_nil _) row.axisValue
  rw [shape, mentions_append, suite, mentions_append, axis, mentions_verdict forbidden]

theorem mentions_testCases (suite : String) (rows : List TestOutcome) :
    Mentions c (Element.allTexts (rows.map (testCase suite))) ↔ ∃ row ∈ rows,
      c ∈ suite.toList ∨ c ∈ row.axisValue.toList ∨ c ∈ row.details.toList := by
  induction rows with
  | nil => simp [Element.allTexts, mentions_nil]
  | cons row rows ih =>
    rw [List.map_cons, Element.allTexts, mentions_append, mentions_testCase forbidden, ih,
      List.exists_mem_cons_iff]

theorem mentions_document (rows : List TestOutcome) (suite : String) :
    Mentions c (document rows suite).texts ↔ c ∈ suite.toList ∨
      ∃ row ∈ rows, c ∈ row.axisValue.toList ∨ c ∈ row.details.toList := by
  have shape : (document rows suite).texts =
      ("testsuites" :: Element.attributeTexts (totals rows)) ++
        ((["testsuite", "name"] ++ suite :: []) ++ (Element.attributeTexts (totals rows) ++
          Element.allTexts (rows.map (testCase suite)))) := by
    simp [document, Element.texts, Element.allTexts, Element.attributeTexts]
  have root := not_mem_of_clean forbidden (clean_of_mem_names "testsuites" (by simp [names]))
  have named := mentions_amid forbidden ["testsuite", "name"] [] (by decide)
    (List.forall_mem_nil _) suite
  have totals := not_mentions_totals forbidden rows
  rw [shape, mentions_append, mentions_cons, mentions_append, named, mentions_append,
    mentions_testCases forbidden]
  simp only [root, totals, false_or]
  grind

/-- A forbidden character is in a document exactly if the suite or a row has it. -/
theorem mem_render_iff (rows : List TestOutcome) (suite : String) :
    c ∈ (render rows suite).toList ↔ c ∈ suite.toList ∨
      ∃ row ∈ rows, c ∈ row.axisValue.toList ∨ c ∈ row.details.toList := by
  have declared : c ∉ declaration.toList := not_mem_of_clean forbidden (by decide)
  have ended : c ∉ "\n".toList := not_mem_of_clean forbidden (by decide)
  rw [render, String.toList_append, String.toList_append, String.toList_ofList, List.mem_append,
    List.mem_append, Element.mem_print_iff forbidden, mentions_document forbidden]
  simp only [declared, ended, false_or, or_false]

end

theorem mem_render_summary_iff {c : Char} (forbidden : ¬Allowed c) (steps : List Step)
    (suite : String) :
    c ∈ (render (summarize steps).value suite).toList ↔
      c ∈ suite.toList ∨ ∃ step ∈ steps, ∃ text, Shows step text ∧ c ∈ text.toList := by
  have details : ∀ row ∈ (summarize steps).value, c ∉ row.details.toList := fun row member =>
    not_mem_of_clean forbidden (clean_of_legible (legible_of_mem_summarize member))
  rw [mem_render_iff forbidden, ← mem_axisValues_iff (Element.ne_of_forbidden forbidden (by decide))
    (Element.ne_of_forbidden forbidden (by decide))]
  refine or_congr_right (exists_congr fun row => and_congr_right fun member => ?_)
  simp only [details row member, or_false]

/-- A document is free of forbidden characters exactly if the name of the suite is, and all that the
steps with an outcome show. Such a character is written as it is, and each of them can come from a
list of steps in JSON, so that a document need not be one of XML. -/
theorem forbidden_characters_are_kept (steps : List Step) (suite : String) :
    (Clean (render (summarize steps).value suite) ↔
      Clean suite ∧ ∀ step ∈ steps, ∀ text, Shows step text → Clean text) ∧
    ∀ c, ¬Allowed c →
      (c ∈ (render (summarize steps).value suite).toList ↔
        c ∈ suite.toList ∨ ∃ step ∈ steps, ∃ text, Shows step text ∧ c ∈ text.toList) ∧
      ∃ json decoded, stepsCodec.readText (Text.Symbol.ofString json) = .ok decoded ∧
        c ∈ (render (summarize decoded).value suite).toList := by
  have each {c : Char} (forbidden : ¬Allowed c) := mem_render_summary_iff forbidden steps suite
  refine ⟨⟨fun clean => ⟨?_, ?_⟩, fun clean c member => ?_⟩,
    fun c forbidden => ⟨each forbidden, ?_⟩⟩
  · intro c member
    by_contra forbidden
    exact forbidden (clean c ((each forbidden).2 (.inl member)))
  · intro step listed text shows c member
    by_contra forbidden
    exact forbidden (clean c ((each forbidden).2 (.inr ⟨step, listed, text, shows, member⟩)))
  · by_contra forbidden
    rcases (each forbidden).1 member with named | ⟨step, listed, text, shows, within⟩
    · exact forbidden (clean.1 c named)
    · exact forbidden (clean.2 step listed text shows c within)
  · refine ⟨_, _, readText_stepOn (String.singleton c), ?_⟩
    rw [mem_render_summary_iff forbidden]
    exact .inr ⟨_, List.mem_singleton_self _, _, shows_stepOn _, by simp⟩

/-- A step whose model ends with a control character. -/
theorem control_character_is_kept :
    ¬Allowed '\x01' ∧ '\x01' ∈
      (render (summarize [stepOn "Pixel\x01"]).value "matrix").toList := by
  have forbidden : ¬Allowed '\x01' := by decide
  exact ⟨forbidden, ((forbidden_characters_are_kept _ "matrix").2 _ forbidden).1.2
    (.inr ⟨_, List.mem_singleton_self _, _, shows_stepOn _, by decide⟩)⟩

/-- The same from JSON, with a suite that has nothing to do with it. -/
theorem document_of_control_character_is_unclean :
    stepsCodec.readText (Text.Symbol.ofString
      "[\x7b\"outcome\": \x7b\x7d, \"dimensionValue\":
        [\x7b\"key\": \"Model\", \"value\": \"Pixel\\u0001\"\x7d]\x7d]") =
      .ok [stepOn "Pixel\x01"] ∧
    Clean "matrix" ∧ ¬Clean (render (summarize [stepOn "Pixel\x01"]).value "matrix") := by
  have forbidden : ¬Allowed '\x01' := by decide
  refine ⟨by decide +kernel, by decide, fun clean => forbidden (clean _ ?_)⟩
  rw [mem_render_summary_iff forbidden]
  exact .inr ⟨_, List.mem_singleton_self _, _, shows_stepOn _, by decide⟩

end Junit
end DeviceMatrix.Report
