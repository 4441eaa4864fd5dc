import DeviceMatrix.Report.Junit

/-! Markup read back. A text is scanned into tags and the texts between them, and these make up a
tree. Escaped text holds none of the characters that end a text or an attribute, so every element
is read as itself, whatever its texts and attributes are. -/
namespace DeviceMatrix.Report

namespace Markup

/-- The text that characters of a document stand for. Five entities stand for one character each,
every other character for itself. -/
def unescape : List Char → List Char
  | '&' :: 'a' :: 'm' :: 'p' :: ';' :: rest => '&' :: unescape rest
  | '&' :: 'l' :: 't' :: ';' :: rest => '<' :: unescape rest
  | '&' :: 'g' :: 't' :: ';' :: rest => '>' :: unescape rest
  | '&' :: 'a' :: 'p' :: 'o' :: 's' :: ';' :: rest => '\x27' :: unescape rest
  | '&' :: 'q' :: 'u' :: 'o' :: 't' :: ';' :: rest => '"' :: unescape rest
  | c :: rest => c :: unescape rest
  | [] => []

def content (raw : List Char) : String := String.ofList (unescape raw)

structure Tag where
  name : String
  attributes : List (String × String) := []
  deriving DecidableEq, Repr

inductive Token where
  | text (content : String)
  | opening (tag : Tag)
  | single (tag : Tag)
  | closing (name : String)
  deriving DecidableEq, Repr

/-- Where a scan is. Characters that have not become part of a token are kept as they are. -/
inductive Stage where
  | text (raw : List Char)
  | less
  /-- In a declaration; `asked` behind a question mark. -/
  | declaration (asked : Bool)
  | name (name : List Char)
  | inside (tag : Tag)
  | key (tag : Tag) (key : List Char)
  /-- A quotation mark must follow. -/
  | equals (tag : Tag) (key : String)
  | value (tag : Tag) (key : String) (raw : List Char)
  | slash (tag : Tag)
  | closing (name : List Char)
  | broken
  deriving DecidableEq, Repr

structure Scan where
  tokens : List Token := []
  stage : Stage := .text []
  deriving DecidableEq, Repr

namespace Scan

def withinTag (tokens : List Token) (tag : Tag) (c : Char) : Scan :=
  if c = '>' then ⟨tokens ++ [.opening tag], .text []⟩
  else if c = '/' then ⟨tokens, .slash tag⟩
  else if c = ' ' then ⟨tokens, .inside tag⟩
  else ⟨tokens, .key tag [c]⟩

def step : Scan → Char → Scan
  | ⟨tokens, .text raw⟩, c =>
    if c = '<' then ⟨tokens ++ [.text (content raw)], .less⟩ else ⟨tokens, .text (raw ++ [c])⟩
  | ⟨tokens, .less⟩, c =>
    if c = '/' then ⟨tokens, .closing []⟩
    else if c = '?' then ⟨tokens, .declaration false⟩
    else ⟨tokens, .name [c]⟩
  | ⟨tokens, .declaration asked⟩, c =>
    if c = '>' ∧ asked then ⟨tokens, .text []⟩ else ⟨tokens, .declaration (c == '?')⟩
  | ⟨tokens, .name name⟩, c =>
    if c = '>' ∨ c = '/' ∨ c = ' ' then withinTag tokens ⟨String.ofList name, []⟩ c
    else ⟨tokens, .name (name ++ [c])⟩
  | ⟨tokens, .inside tag⟩, c => withinTag tokens tag c
  | ⟨tokens, .key tag key⟩, c =>
    if c = '=' then ⟨tokens, .equals tag (String.ofList key)⟩ else ⟨tokens, .key tag (key ++ [c])⟩
  | ⟨tokens, .equals tag key⟩, c =>
    if c = '"' then ⟨tokens, .value tag key []⟩ else ⟨tokens, .broken⟩
  | ⟨tokens, .value tag key raw⟩, c =>
    if c = '"' then
      ⟨tokens, .inside { tag with attributes := tag.attributes ++ [(key, content raw)] }⟩
    else ⟨tokens, .value tag key (raw ++ [c])⟩
  | ⟨tokens, .slash tag⟩, c =>
    if c = '>' then ⟨tokens ++ [.single tag], .text []⟩ else ⟨tokens, .broken⟩
  | ⟨tokens, .closing name⟩, c =>
    if c = '>' then ⟨tokens ++ [.closing (String.ofList name)], .text []⟩
    else ⟨tokens, .closing (name ++ [c])⟩
  | ⟨tokens, .broken⟩, _ => ⟨tokens, .broken⟩

end Scan

/-- The tags of a document and the texts around them. -/
def tokens? (text : List Char) : Option (List Token) :=
  match text.foldl Scan.step {} with
  | ⟨tokens, .text raw⟩ => some (tokens ++ [.text (content raw)])
  | _ => none

inductive Node where
  | text (content : String)
  | element (tag : Tag) (content : List Node)
  deriving Repr

/-- A tree part way through: what has been read inside the innermost element that is open, and
the open elements with what stands before each. -/
inductive Tree where
  | reading (frames : List (Tag × List Node)) (nodes : List Node)
  | broken

namespace Tree

def step : Tree → Token → Tree
  | reading frames nodes, .text content => reading frames (nodes ++ [.text content])
  | reading frames nodes, .opening tag => reading ((tag, nodes) :: frames) []
  | reading frames nodes, .single tag => reading frames (nodes ++ [.element tag []])
  | reading ((tag, before) :: frames) nodes, .closing name =>
    if tag.name = name then reading frames (before ++ [.element tag nodes]) else broken
  | reading [] _, .closing _ => broken
  | broken, _ => broken

/-- The whole document, if no element is left open. -/
def nodes? : Tree → Option (List Node)
  | reading [] nodes => some nodes
  | _ => none

end Tree

/-- The trees and texts of a document. -/
def read? (text : String) : Option (List Node) := do
  let tokens ← tokens? text.toList
  (tokens.foldl Tree.step (.reading [] [])).nodes?

/-! Escaped text. -/

theorem unescape_cons {c : Char} (plain : c ≠ '&') (rest : List Char) :
    unescape (c :: rest) = c :: unescape rest := by
  rw [unescape.eq_def]
  split <;> simp_all

theorem unescape_escape (c : Char) (rest : List Char) :
    unescape (Element.escape c ++ rest) = c :: unescape rest := by
  unfold Element.escape
  split
  · rfl
  · rfl
  · rfl
  · rfl
  · rfl
  · next plain _ _ _ _ => exact unescape_cons plain rest

theorem content_escaped (s : String) : content (Element.escaped s) = s := by
  have undone : unescape (s.toList.flatMap Element.escape) = s.toList := by
    induction s.toList with
    | nil => rfl
    | cons c rest ih => rw [List.flatMap_cons, unescape_escape, ih]
  rw [content, Element.escaped, undone, String.ofList_toList]

/-- Neither a tag nor the end of an attribute can begin in escaped text. -/
theorem ne_of_mem_escaped {s : String} {c : Char} (member : c ∈ Element.escaped s) :
    c ≠ '<' ∧ c ≠ '"' := by
  obtain ⟨original, -, spelled⟩ := List.mem_flatMap.1 member
  unfold Element.escape at spelled
  split at spelled
  case h_6 => simp_all
  all_goals constructor <;> rintro rfl <;> simp at spelled

def lineBreak (depth : Nat) : String := String.ofList (Element.newLine depth)

theorem mem_newLine {depth : Nat} {c : Char} (member : c ∈ Element.newLine depth) :
    c = '\n' ∨ c = ' ' := by
  rcases List.mem_cons.1 member with rfl | blank
  · exact .inl rfl
  · exact .inr (List.eq_of_mem_replicate blank)

theorem content_newLine (depth : Nat) : content (Element.newLine depth) = lineBreak depth := by
  have plain : ∀ raw : List Char, (∀ c ∈ raw, c ≠ '&') → unescape raw = raw := by
    intro raw
    induction raw with
    | nil => exact fun _ => rfl
    | cons c rest ih =>
      intro plain
      obtain ⟨first, others⟩ := List.forall_mem_cons.1 plain
      rw [unescape_cons first, ih others]
  have blank : ∀ c ∈ Element.newLine depth, c ≠ '&' := by
    intro c member
    rcases mem_newLine member with rfl | rfl <;> decide
  rw [content, plain _ blank, lineBreak]

/-! The scan of what is printed, part by part. -/

theorem foldl_collect {wrap : List Char → Stage} {tokens : List Token} {chars : List Char}
    (stays : ∀ seen, ∀ c ∈ chars, Scan.step ⟨tokens, wrap seen⟩ c = ⟨tokens, wrap (seen ++ [c])⟩)
    (seen : List Char) :
    chars.foldl Scan.step ⟨tokens, wrap seen⟩ = ⟨tokens, wrap (seen ++ chars)⟩ := by
  induction chars generalizing seen with
  | nil => rw [List.foldl_nil, List.append_nil]
  | cons c chars ih =>
    rw [List.foldl_cons, stays seen c List.mem_cons_self,
      ih fun seen other member => stays seen other (List.mem_cons_of_mem c member)]
    simp

theorem foldl_text {chars : List Char} (plain : ∀ c ∈ chars, c ≠ '<') (tokens : List Token) :
    chars.foldl Scan.step ⟨tokens, .text []⟩ = ⟨tokens, .text chars⟩ := by
  have stays (seen) : ∀ c ∈ chars,
      Scan.step ⟨tokens, .text seen⟩ c = ⟨tokens, .text (seen ++ [c])⟩ :=
    fun c member => if_neg (plain c member)
  exact foldl_collect stays []

def marks : List Char := ['<', '>', '/', '?', '=', '"', ' ']

theorem not_mem_marks_iff {c : Char} :
    c ∉ marks ↔ c ≠ '<' ∧ c ≠ '>' ∧ c ≠ '/' ∧ c ≠ '?' ∧ c ≠ '=' ∧ c ≠ '"' ∧ c ≠ ' ' := by
  simp [marks]

/-- What may name an element or an attribute. -/
def Plain (name : String) : Prop := name ≠ "" ∧ name.toList.all (· ∉ marks)

instance (name : String) : Decidable (Plain name) := inferInstanceAs (Decidable (_ ∧ _))

def PlainKeys (attributes : List (String × String)) : Prop :=
  ∀ key ∈ attributes.map Prod.fst, Plain key

theorem plainKeys_nil : PlainKeys [] := by simp [PlainKeys]

theorem Plain.not_mem_marks {name : String} (plain : Plain name) : ∀ c ∈ name.toList, c ∉ marks :=
  fun c member => of_decide_eq_true (List.all_eq_true.1 plain.2 c member)

theorem Plain.cons {name : String} (plain : Plain name) :
    ∃ c rest, name.toList = c :: rest ∧ c ∉ marks ∧ ∀ c ∈ rest, c ∉ marks := by
  obtain ⟨c, rest, shape⟩ := List.exists_cons_of_ne_nil (mt String.toList_eq_nil_iff.1 plain.1)
  have unmarked := plain.not_mem_marks
  rw [shape] at unmarked
  obtain ⟨first, others⟩ := List.forall_mem_cons.1 unmarked
  exact ⟨c, rest, shape, first, others⟩

theorem foldl_name {name : String} (plain : Plain name) (tokens : List Token) :
    name.toList.foldl Scan.step ⟨tokens, .less⟩ = ⟨tokens, .name name.toList⟩ := by
  obtain ⟨c, rest, shape, first, others⟩ := plain.cons
  have begun : Scan.step ⟨tokens, .less⟩ c = ⟨tokens, .name [c]⟩ := by
    simp [Scan.step, not_mem_marks_iff.1 first]
  have stays (seen) : ∀ c ∈ rest,
      Scan.step ⟨tokens, .name seen⟩ c = ⟨tokens, .name (seen ++ [c])⟩ := by
    intro c member
    simp [Scan.step, not_mem_marks_iff.1 (others c member)]
  rw [shape, List.foldl_cons, begun, foldl_collect stays]
  rfl

theorem foldl_key {key : String} (plain : Plain key) (tokens : List Token) (tag : Tag) :
    key.toList.foldl Scan.step ⟨tokens, .inside tag⟩ = ⟨tokens, .key tag key.toList⟩ := by
  obtain ⟨c, rest, shape, first, others⟩ := plain.cons
  have begun : Scan.step ⟨tokens, .inside tag⟩ c = ⟨tokens, .key tag [c]⟩ := by
    simp [Scan.step, Scan.withinTag, not_mem_marks_iff.1 first]
  have stays (seen) : ∀ c ∈ rest,
      Scan.step ⟨tokens, .key tag seen⟩ c = ⟨tokens, .key tag (seen ++ [c])⟩ := by
    intro c member
    simp [Scan.step, not_mem_marks_iff.1 (others c member)]
  rw [shape, List.foldl_cons, begun, foldl_collect stays]
  rfl

theorem foldl_closing {name : String} (plain : Plain name) (tokens : List Token) :
    name.toList.foldl Scan.step ⟨tokens, .closing []⟩ = ⟨tokens, .closing name.toList⟩ := by
  have stays (seen) : ∀ c ∈ name.toList,
      Scan.step ⟨tokens, .closing seen⟩ c = ⟨tokens, .closing (seen ++ [c])⟩ := by
    intro c member
    simp [Scan.step, not_mem_marks_iff.1 (plain.not_mem_marks c member)]
  exact foldl_collect stays []

theorem foldl_value (value : String) (tokens : List Token) (tag : Tag) (key : String) :
    (Element.escaped value).foldl Scan.step ⟨tokens, .value tag key []⟩ =
      ⟨tokens, .value tag key (Element.escaped value)⟩ := by
  have stays (seen) : ∀ c ∈ Element.escaped value,
      Scan.step ⟨tokens, .value tag key seen⟩ c = ⟨tokens, .value tag key (seen ++ [c])⟩ :=
    fun _ member => if_neg (ne_of_mem_escaped member).2
  exact foldl_collect stays []

theorem foldl_attributes {attributes : List (String × String)} (plain : PlainKeys attributes)
    (tokens : List Token) (tag : Tag) :
    (Element.printAttributes attributes).foldl Scan.step ⟨tokens, .inside tag⟩ =
      ⟨tokens, .inside { tag with attributes := tag.attributes ++ attributes }⟩ := by
  induction attributes generalizing tag with
  | nil => simp [Element.printAttributes]
  | cons entry attributes ih =>
    obtain ⟨key, value⟩ := entry
    obtain ⟨first, others⟩ := List.forall_mem_cons.1 plain
    have shape : Element.printAttributes ((key, value) :: attributes) =
        ' ' :: (key.toList ++ '=' :: '"' :: (Element.escaped value ++
          '"' :: Element.printAttributes attributes)) := by
      simp [Element.printAttributes]
    have blank : Scan.step ⟨tokens, .inside tag⟩ ' ' = ⟨tokens, .inside tag⟩ := rfl
    have quoted : Scan.step (Scan.step ⟨tokens, .key tag key.toList⟩ '=') '"' =
        ⟨tokens, .value tag key []⟩ := by
      simp [Scan.step]
    have done : Scan.step ⟨tokens, .value tag key (Element.escaped value)⟩ '"' =
        ⟨tokens, .inside { tag with attributes := tag.attributes ++ [(key, value)] }⟩ := by
      simp [Scan.step, content_escaped]
    rw [shape, List.foldl_cons, blank, List.foldl_append, foldl_key first, List.foldl_cons,
      List.foldl_cons, quoted, List.foldl_append, foldl_value, List.foldl_cons, done, ih others]
    simp

theorem step_name {c : Char} (behind : c = '>' ∨ c = '/' ∨ c = ' ') (tokens : List Token)
    (name : String) :
    Scan.step ⟨tokens, .name name.toList⟩ c = Scan.step ⟨tokens, .inside ⟨name, []⟩⟩ c := by
  simp [Scan.step, behind]

theorem foldl_tag {name : String} {attributes : List (String × String)} (plain : Plain name)
    (keys : PlainKeys attributes) {c : Char} (ending : c = '>' ∨ c = '/')
    (tokens : List Token) :
    (name.toList ++ (Element.printAttributes attributes ++ [c])).foldl Scan.step ⟨tokens, .less⟩ =
      Scan.withinTag tokens ⟨name, attributes⟩ c := by
  have behind : (Element.printAttributes attributes ++ [c]).foldl Scan.step
      ⟨tokens, .name name.toList⟩ =
      (Element.printAttributes attributes ++ [c]).foldl Scan.step ⟨tokens, .inside ⟨name, []⟩⟩ := by
    cases attributes with
    | nil => exact step_name (ending.imp_right .inl) tokens name
    | cons entry attributes =>
      simp only [Element.printAttributes, List.flatMap_cons, List.cons_append, List.foldl_cons,
        step_name (.inr (.inr rfl))]
  rw [List.foldl_append, foldl_name plain, behind, List.foldl_append, foldl_attributes keys]
  rfl

end Markup

namespace Element

open Markup

mutual

/-- The names in an element are plain. Its texts and the values of its attributes need not be. -/
def Named : Element → Prop
  | empty name attributes => Plain name ∧ PlainKeys attributes
  | text name _ => Plain name
  | parent name attributes children =>
    (Plain name ∧ PlainKeys attributes) ∧ AllNamed children

def AllNamed : List Element → Prop
  | [] => True
  | element :: elements => element.Named ∧ AllNamed elements

end

theorem allNamed_iff {elements : List Element} :
    AllNamed elements ↔ ∀ element ∈ elements, element.Named := by
  induction elements with
  | nil => simp [AllNamed]
  | cons element elements ih => rw [AllNamed, ih, List.forall_mem_cons]

mutual

/-- The tokens of an element with the text in front of it. -/
def tokens (depth : Nat) : Element → List Token
  | empty name attributes => [.text (lineBreak depth), .single ⟨name, attributes⟩]
  | text name content =>
    [.text (lineBreak depth), .opening ⟨name, []⟩, .text content, .closing name]
  | parent name attributes children =>
    .text (lineBreak depth) :: .opening ⟨name, attributes⟩ ::
      (allTokens (depth + 1) children ++ [.text (lineBreak depth), .closing name])

def allTokens (depth : Nat) : List Element → List Token
  | [] => []
  | element :: elements => element.tokens depth ++ allTokens depth elements

end

end Element

namespace Markup

open Element (newLine)

theorem foldl_line (depth : Nat) (tokens : List Token) :
    (newLine depth ++ ['<']).foldl Scan.step ⟨tokens, .text []⟩ =
      ⟨tokens ++ [.text (lineBreak depth)], .less⟩ := by
  have plain : ∀ c ∈ newLine depth, c ≠ '<' := by
    intro c member
    rcases mem_newLine member with rfl | rfl <;> decide
  rw [List.foldl_append, foldl_text plain, ← content_newLine]
  rfl

theorem foldl_closeTag {name : String} (plain : Plain name) (tokens : List Token) :
    ('/' :: name.toList ++ ['>']).foldl Scan.step ⟨tokens, .less⟩ =
      ⟨tokens ++ [.closing name], .text []⟩ := by
  have opened : Scan.step ⟨tokens, .less⟩ '/' = ⟨tokens, .closing []⟩ := rfl
  rw [List.cons_append, List.foldl_cons, opened, List.foldl_append, foldl_closing plain]
  simp [Scan.step]

theorem foldl_content (s : String) (tokens : List Token) :
    (Element.escaped s ++ ['<']).foldl Scan.step ⟨tokens, .text []⟩ =
      ⟨tokens ++ [.text s], .less⟩ := by
  have plain : ∀ c ∈ Element.escaped s, c ≠ '<' := fun _ member => (ne_of_mem_escaped member).1
  rw [List.foldl_append, foldl_text plain]
  simp [Scan.step, content_escaped]

-- The cases are those of the printer. Each tag begins where the text in front of it has ended.
mutual

theorem foldl_print (depth : Nat) : ∀ (element : Element), element.Named → ∀ tokens : List Token,
    (element.print depth).foldl Scan.step ⟨tokens, .text []⟩ =
      ⟨tokens ++ element.tokens depth, .text []⟩
  | .empty name attributes, ⟨plain, keys⟩, tokens => by
    have shape : (Element.empty name attributes).print depth = (newLine depth ++ ['<']) ++
        ((name.toList ++ (Element.printAttributes attributes ++ ['/'])) ++ ['>']) := by
      simp [Element.print]
    rw [shape, List.foldl_append, foldl_line, List.foldl_append, foldl_tag plain keys (.inr rfl)]
    simp [Scan.withinTag, Scan.step, Element.tokens]
  | .text name content, plain, tokens => by
    have shape : (Element.text name content).print depth = (newLine depth ++ ['<']) ++
        ((name.toList ++ (Element.printAttributes [] ++ ['>'])) ++
          ((Element.escaped content ++ ['<']) ++ ('/' :: name.toList ++ ['>']))) := by
      simp [Element.print, Element.openTag, Element.closeTag]
    rw [shape, List.foldl_append, foldl_line, List.foldl_append,
      foldl_tag plain plainKeys_nil (.inl rfl), List.foldl_append]
    simp only [Scan.withinTag, if_true]
    rw [foldl_content, foldl_closeTag plain]
    simp [Element.tokens]
  | .parent name attributes children, ⟨⟨plain, keys⟩, named⟩, tokens => by
    have shape : (Element.parent name attributes children).print depth = (newLine depth ++ ['<']) ++
        ((name.toList ++ (Element.printAttributes attributes ++ ['>'])) ++
          (Element.printAll (depth + 1) children ++
            ((newLine depth ++ ['<']) ++ ('/' :: name.toList ++ ['>'])))) := by
      simp [Element.print, Element.openTag, Element.closeTag]
    rw [shape, List.foldl_append, foldl_line, List.foldl_append, foldl_tag plain keys (.inl rfl),
      List.foldl_append]
    simp only [Scan.withinTag, if_true]
    rw [foldl_printAll (depth + 1) children named, List.foldl_append, foldl_line,
      foldl_closeTag plain]
    simp [Element.tokens]

theorem foldl_printAll (depth : Nat) : ∀ (elements : List Element), Element.AllNamed elements →
    ∀ tokens : List Token,
    (Element.printAll depth elements).foldl Scan.step ⟨tokens, .text []⟩ =
      ⟨tokens ++ Element.allTokens depth elements, .text []⟩
  | [], _, tokens => by simp [Element.printAll, Element.allTokens]
  | element :: elements, ⟨named, others⟩, tokens => by
    rw [Element.printAll, List.foldl_append, foldl_print depth element named,
      foldl_printAll depth elements others, Element.allTokens, List.append_assoc]

end

end Markup

/-! The tree of the tokens. -/

namespace Element

open Markup

def tag : Element → Tag
  | empty name attributes => ⟨name, attributes⟩
  | text name _ => ⟨name, []⟩
  | parent name attributes _ => ⟨name, attributes⟩

mutual

/-- What stands in an element. -/
def inner (depth : Nat) : Element → List Node
  | empty _ _ => []
  | text _ content => [.text content]
  | parent _ _ children => allNodes (depth + 1) children ++ [.text (lineBreak depth)]

def allNodes (depth : Nat) : List Element → List Node
  | [] => []
  | element :: elements =>
    .text (lineBreak depth) :: .element element.tag (element.inner depth) ::
      allNodes depth elements

end

end Element

namespace Markup

mutual

theorem foldl_tokens (depth : Nat) : ∀ (element : Element) (frames : List (Tag × List Node))
    (nodes : List Node),
    (element.tokens depth).foldl Tree.step (.reading frames nodes) =
      .reading frames
        (nodes ++ [.text (lineBreak depth), .element element.tag (element.inner depth)])
  | .empty name attributes, frames, nodes => by
    simp [Element.tokens, Tree.step, Element.tag, Element.inner]
  | .text name content, frames, nodes => by
    simp [Element.tokens, Tree.step, Element.tag, Element.inner]
  | .parent name attributes children, frames, nodes => by
    simp only [Element.tokens, List.foldl_cons, List.foldl_append, Tree.step]
    rw [foldl_allTokens (depth + 1) children]
    simp [Element.tag, Element.inner]

theorem foldl_allTokens (depth : Nat) : ∀ (elements : List Element)
    (frames : List (Tag × List Node)) (nodes : List Node),
    (Element.allTokens depth elements).foldl Tree.step (.reading frames nodes) =
      .reading frames (nodes ++ Element.allNodes depth elements)
  | [], frames, nodes => by simp [Element.allTokens, Element.allNodes]
  | element :: elements, frames, nodes => by
    rw [Element.allTokens, List.foldl_append, foldl_tokens depth element,
      foldl_allTokens depth elements]
    simp [Element.allNodes]

end

end Markup
end DeviceMatrix.Report
