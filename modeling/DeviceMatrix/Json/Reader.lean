import DeviceMatrix.Json.Token

/-! The tree of a JSON text, built token by token. The containers that are open are kept as a
list of frames, innermost first. A token that cannot stand where it stands ends the reading:
the problem is put at its place and the open containers are closed around it. -/
namespace DeviceMatrix.Json

/-- A container part way through; what it holds already is kept latest first. -/
inductive Frame where
  | array (items : List Source)
  | member (members : List (Key × Source)) (key : Key)

inductive Stage where
  | value (frames : List Frame)
  | opening (frames : List Frame)
  | entering (frames : List Frame)
  | key (members : List (Key × Source)) (frames : List Frame)
  | colon (members : List (Key × Source)) (key : Key) (frames : List Frame)
  | after (value : Source) (frames : List Frame)
  | halted (document : Document)

def enclose (value : Source) : List Frame → Source
  | [] => value
  | .array items :: rest => enclose (.array (value :: items).reverse none) rest
  | .member members key :: rest => enclose (.object ((key, value) :: members).reverse none) rest

namespace Stage

def stopped (value : Source) (frames : List Frame) : Stage := halted ⟨enclose value frames, false⟩

def start (frames : List Frame) : Token → Stage
  | .beginObject => entering frames
  | .beginArray => opening frames
  | .scalar (.broken fault) => stopped (.broken fault) frames
  | .scalar (.misspelt fault) => stopped (.misspelt fault) frames
  | .scalar content => after content frames
  | .text content => after (.text content) frames
  | .brokenText fault => stopped (.broken fault) frames
  | _ => stopped (.broken .malformed) frames

/-- What stands where the first key of an object belongs. -/
def misplaced : Token → Source
  | .scalar content => content
  | .beginArray => .array [] none
  | .beginObject => .object [] none
  | _ => .broken .malformed

/-- A text that goes on where a key must follow, and not with one. -/
def keyMissing (fault : Fault) (members : List (Key × Source)) (frames : List Frame) : Stage :=
  stopped (.object ((.missing fault, .null) :: members).reverse none) frames

def step : Stage → Token → Stage
  | value frames, token => start frames token
  | opening frames, .endArray => after (.array [] none) frames
  | opening frames, token => start (.array [] :: frames) token
  | entering frames, .text name => colon [] (.ofText name) frames
  | entering frames, .brokenText fault => stopped (.object [] (some fault)) frames
  | entering frames, .endObject => after (.object [] none) frames
  | entering frames, token => stopped (.keyless (misplaced token)) frames
  | key members frames, .text name => colon members (.ofText name) frames
  | key members frames, .brokenText fault => keyMissing fault members frames
  | key members frames, _ => keyMissing .malformed members frames
  | colon members name frames, .colon => value (.member members name :: frames)
  | colon members name frames, _ => stopped (.broken .malformed) (.member members name :: frames)
  | after content [], _ => halted ⟨content, true⟩
  | after content (.array items :: frames), .comma => value (.array (content :: items) :: frames)
  | after content (.array items :: frames), .endArray =>
    after (.array (content :: items).reverse none) frames
  | after content (.array items :: frames), _ =>
    stopped (.array (content :: items).reverse (some .malformed)) frames
  | after content (.member members name :: frames), .comma =>
    key ((name, content) :: members) frames
  | after content (.member members name :: frames), .endObject =>
    after (.object ((name, content) :: members).reverse none) frames
  | after content (.member members name :: frames), _ =>
    stopped (.object ((name, content) :: members).reverse (some .malformed)) frames
  | halted document, _ => halted document

def finish : Stage → Document
  | value frames => ⟨enclose (.broken .ended) frames, false⟩
  | opening frames => ⟨enclose (.array [] (some .ended)) frames, false⟩
  | entering frames => ⟨enclose (.object [] (some .ended)) frames, false⟩
  | key members frames =>
    ⟨enclose (.object ((.missing .ended, .null) :: members).reverse none) frames, false⟩
  | colon members name frames => ⟨enclose (.broken .ended) (.member members name :: frames), false⟩
  | after content [] => ⟨content, false⟩
  | after content (.array items :: frames) =>
    ⟨enclose (.array (content :: items).reverse (some .ended)) frames, false⟩
  | after content (.member members name :: frames) =>
    ⟨enclose (.object ((name, content) :: members).reverse (some .ended)) frames, false⟩
  | halted document => document

end Stage

def read (text : List Text.Symbol) : Document :=
  ((tokens text).foldl Stage.step (.value [])).finish

end DeviceMatrix.Json
