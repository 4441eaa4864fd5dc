import DeviceMatrix.Json.Reader
import DeviceMatrix.Proofs.Json.Spelling

/-! Printed values read back as trees. Every value has its tokens, every list of tokens of a value
builds the tree of that value, and so a printed text holds the value and nothing behind it. -/
namespace DeviceMatrix.Json

open Text (Symbol)

namespace Value

mutual

def tokens : Value → List Token
  | null => [.scalar .null]
  | flag value => [.scalar (.flag value)]
  | integer value => [.scalar (.number (Numeral.ofInt value).number)]
  | text content => [.text (some content)]
  | array [] => [.beginArray, .endArray]
  | array (item :: items) => .beginArray :: (item.tokens ++ itemTokens items)
  | object [] => [.beginObject, .endObject]
  | object ((key, value) :: members) =>
    .beginObject :: .text (some key) :: .colon :: (value.tokens ++ memberTokens members)

def itemTokens : List Value → List Token
  | [] => [.endArray]
  | item :: items => .comma :: (item.tokens ++ itemTokens items)

def memberTokens : List (String × Value) → List Token
  | [] => [.endObject]
  | (key, value) :: members =>
    .comma :: .text (some key) :: .colon :: (value.tokens ++ memberTokens members)

end

mutual

/-- The tree of a value. An integer is whatever number its digits stand for. -/
def source : Value → Source
  | null => .null
  | flag value => .flag value
  | integer value => .number (Numeral.ofInt value).number
  | text content => .text (some content)
  | array items => .array (itemSources items) none
  | object members => .object (memberSources members) none

def itemSources : List Value → List Source
  | [] => []
  | item :: items => item.source :: itemSources items

def memberSources : List (String × Value) → List (Key × Source)
  | [] => []
  | (key, value) :: members => (.named key, value.source) :: memberSources members

end

theorem itemSources_eq (items : List Value) : itemSources items = items.map source := by
  induction items with
  | nil => rfl
  | cons item items ih => rw [itemSources, ih, List.map_cons]

theorem memberSources_eq (members : List (String × Value)) :
    memberSources members = members.map fun (key, value) => (Key.named key, value.source) := by
  induction members with
  | nil => rfl
  | cons member members ih => rw [memberSources, ih, List.map_cons]

end Value

/-! The tokens of a printed text. -/

theorem tokens_mark {c : Char} {token : Token} {rest : List Symbol} (mark : isSpace c = false)
    (next : Token.next c rest = (token, rest)) :
    tokens (.char c :: rest) = token :: tokens rest := by
  rw [tokens_char mark, next]

theorem closes_printItems (items : List Value) (rest : List Symbol) :
    Closes (Symbol.ofText (printItems items) ++ .char ']' :: rest) := by
  cases items <;> simp [printItems, Symbol.ofText, Closes]

theorem closes_printMembers (members : List (String × Value)) (rest : List Symbol) :
    Closes (Symbol.ofText (printMembers members) ++ .char '\x7d' :: rest) := by
  cases members <;> simp [printMembers, Symbol.ofText, Closes]

theorem tokens_key (key : String) (rest : List Symbol) :
    tokens (Symbol.ofText (printText key) ++ .char ':' :: rest) =
      .text (some key) :: .colon :: tokens rest := by
  rw [tokens_printText, tokens_mark (by decide) rfl]

-- The cases are those of the printer; an item or member is followed by what closes a number.
mutual

theorem tokens_print : ∀ (value : Value) {rest : List Symbol}, Closes rest →
    tokens (Symbol.ofText (print value) ++ rest) = value.tokens ++ tokens rest
  | .null, rest, _ => tokens_null rest
  | .flag value, rest, _ => tokens_word value rest
  | .integer value, _, closes => tokens_signed value closes
  | .text content, rest, _ => tokens_printText content rest
  | .array [], rest, _ => by
    have last : tokens (.char ']' :: rest) = .endArray :: tokens rest :=
      tokens_mark (by decide) rfl
    exact (tokens_mark (by decide) rfl).trans (congrArg (Token.beginArray :: ·) last)
  | .array (item :: items), rest, _ => by
    have shape : Symbol.ofText (print (.array (item :: items))) ++ rest = .char '[' ::
        (Symbol.ofText (print item) ++
          (Symbol.ofText (printItems items) ++ .char ']' :: rest)) := by
      simp [print, Symbol.ofText]
    rw [shape, tokens_mark (by decide) rfl, tokens_print item (closes_printItems items rest),
      tokens_printItems items rest]
    simp [Value.tokens]
  | .object [], rest, _ => by
    have last : tokens (.char '\x7d' :: rest) = .endObject :: tokens rest :=
      tokens_mark (by decide) rfl
    exact (tokens_mark (by decide) rfl).trans (congrArg (Token.beginObject :: ·) last)
  | .object ((key, value) :: members), rest, _ => by
    have shape : Symbol.ofText (print (.object ((key, value) :: members))) ++ rest =
        .char '\x7b' :: (Symbol.ofText (printText key) ++ .char ':' ::
          (Symbol.ofText (print value) ++
            (Symbol.ofText (printMembers members) ++ .char '\x7d' :: rest))) := by
      simp [print, Symbol.ofText]
    rw [shape, tokens_mark (by decide) rfl, tokens_key,
      tokens_print value (closes_printMembers members rest), tokens_printMembers members rest]
    simp [Value.tokens]

theorem tokens_printItems : ∀ (items : List Value) (rest : List Symbol),
    tokens (Symbol.ofText (printItems items) ++ .char ']' :: rest) =
      Value.itemTokens items ++ tokens rest
  | [], rest => tokens_mark (by decide) rfl
  | item :: items, rest => by
    have shape : Symbol.ofText (printItems (item :: items)) ++ .char ']' :: rest = .char ',' ::
        (Symbol.ofText (print item) ++
          (Symbol.ofText (printItems items) ++ .char ']' :: rest)) := by
      simp [printItems, Symbol.ofText]
    rw [shape, tokens_mark (by decide) rfl, tokens_print item (closes_printItems items rest),
      tokens_printItems items rest]
    simp [Value.itemTokens]

theorem tokens_printMembers : ∀ (members : List (String × Value)) (rest : List Symbol),
    tokens (Symbol.ofText (printMembers members) ++ .char '\x7d' :: rest) =
      Value.memberTokens members ++ tokens rest
  | [], rest => tokens_mark (by decide) rfl
  | (key, value) :: members, rest => by
    have shape : Symbol.ofText (printMembers ((key, value) :: members)) ++ .char '\x7d' :: rest =
        .char ',' :: (Symbol.ofText (printText key) ++ .char ':' ::
          (Symbol.ofText (print value) ++
            (Symbol.ofText (printMembers members) ++ .char '\x7d' :: rest))) := by
      simp [printMembers, Symbol.ofText]
    rw [shape, tokens_mark (by decide) rfl, tokens_key,
      tokens_print value (closes_printMembers members rest), tokens_printMembers members rest]
    simp [Value.memberTokens]

end

/-! The tree of the tokens. -/

/-- The first token of a value never closes an array, so an array with items starts like any
place where a value is due. -/
theorem foldl_opening (value : Value) (frames : List Frame) (rest : List Token) :
    (value.tokens ++ rest).foldl Stage.step (.opening frames) =
      (value.tokens ++ rest).foldl Stage.step (.value (.array [] :: frames)) := by
  cases value with
  | null | flag | integer | text => rfl
  | array items => cases items <;> rfl
  | object members => cases members <;> rfl

mutual

theorem foldl_tokens : ∀ (value : Value) (frames : List Frame),
    value.tokens.foldl Stage.step (.value frames) = .after value.source frames
  | .null, _ | .flag _, _ | .integer _, _ | .text _, _ => rfl
  | .array [], _ => rfl
  | .array (item :: items), frames => by
    refine (foldl_opening item frames (Value.itemTokens items)).trans ?_
    rw [List.foldl_append, foldl_tokens item, foldl_itemTokens items]
    rfl
  | .object [], _ => rfl
  | .object ((key, value) :: members), frames => by
    show (value.tokens ++ Value.memberTokens members).foldl Stage.step
      (.value (.member [] (.named key) :: frames)) = _
    rw [List.foldl_append, foldl_tokens value, foldl_memberTokens members]
    rfl

theorem foldl_itemTokens : ∀ (items : List Value) (content : Source) (done : List Source)
    (frames : List Frame),
    (Value.itemTokens items).foldl Stage.step (.after content (.array done :: frames)) =
      .after (.array (done.reverse ++ content :: Value.itemSources items) none) frames
  | [], content, done, frames => by simp [Value.itemTokens, Stage.step, Value.itemSources]
  | item :: items, content, done, frames => by
    show (item.tokens ++ Value.itemTokens items).foldl Stage.step
      (.value (.array (content :: done) :: frames)) = _
    rw [List.foldl_append, foldl_tokens item, foldl_itemTokens items]
    simp [Value.itemSources]

theorem foldl_memberTokens : ∀ (members : List (String × Value)) (name : Key) (content : Source)
    (done : List (Key × Source)) (frames : List Frame),
    (Value.memberTokens members).foldl Stage.step (.after content (.member done name :: frames)) =
      .after (.object (done.reverse ++ (name, content) :: Value.memberSources members) none) frames
  | [], name, content, done, frames => by
    simp [Value.memberTokens, Stage.step, Value.memberSources]
  | (key, value) :: members, name, content, done, frames => by
    show (value.tokens ++ Value.memberTokens members).foldl Stage.step
      (.value (.member ((name, content) :: done) (.named key) :: frames)) = _
    rw [List.foldl_append, foldl_tokens value, foldl_memberTokens members]
    simp [Value.memberSources]

end

theorem read_of_tokens {text : List Symbol} {value : Value}
    (all : tokens (text ++ []) = value.tokens ++ tokens []) :
    read text = ⟨value.source, false⟩ := by
  have ended : tokens [] = [] := by rw [tokens]
  rw [List.append_nil, ended, List.append_nil] at all
  rw [read, all, foldl_tokens]
  rfl

/-- Reading what was printed gives the tree of the value, and nothing is left behind it. -/
theorem read_print (value : Value) :
    read (Symbol.ofText (print value)) = ⟨value.source, false⟩ := by
  apply read_of_tokens
  exact tokens_print value (show Closes [] from trivial)

end DeviceMatrix.Json
