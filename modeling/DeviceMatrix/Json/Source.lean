import DeviceMatrix.Record.Problem

/-! JSON text as a tree that keeps whatever was read before the text broke off. A reader that
walks the tree from left to right meets the problems of the text in the order in which they
stand there, between the problems of the content. `Source.skip?` is the walk of a reader that
does not care for the content. -/
namespace DeviceMatrix.Json

open Record (Problem Mismatch Found)

inductive Cause where
  | ended
  | malformed
  deriving DecidableEq, Repr

def Cause.problem : Cause → Problem
  | ended => .ended
  | malformed => .malformed

/-- Where a text breaks off: as seen by a reader that wants what stands there, and by one
that skips it and cares less about numbers and surrogates. -/
structure Fault where
  strict : Cause
  loose : Cause
  deriving DecidableEq, Repr

namespace Fault

def same (cause : Cause) : Fault := ⟨cause, cause⟩
def ended : Fault := same .ended
def malformed : Fault := same .malformed

end Fault

/-- A number as far as records care: the integers of 64 bits, with or without a sign, are
known exactly; `vast` is beyond every double and passes only where it is skipped. -/
inductive Number where
  | integer (value : Int)
  | real
  | vast
  deriving DecidableEq, Repr

inductive Key where
  | named (name : String)
  /-- The text spells bytes or surrogates that are not characters. -/
  | unreadable
  /-- There is no whole text where a key must follow. -/
  | missing (fault : Fault)
  deriving DecidableEq, Repr

def Key.ofText : Option String → Key
  | some name => .named name
  | none => .unreadable

def Key.skip? : Key → Option Cause
  | named _ => none
  | unreadable => none
  | missing fault => some fault.loose

inductive Source where
  | null
  | flag (value : Bool)
  | number (value : Number)
  /-- No content: the text spells bytes or surrogates that are not characters. -/
  | text (content : Option String)
  | array (items : List Source) (stop : Option Fault)
  | object (members : List (Key × Source)) (stop : Option Fault)
  /-- An object in which something other than a text stands where its first key belongs. -/
  | keyless (standing : Source)
  | misspelt (fault : Fault)
  | broken (fault : Fault)

/-- What follows the value matters only when the value itself was read without a problem. -/
structure Document where
  value : Source
  trailing : Bool

namespace Source

/-- What a message says is there, or the problem that hides it. -/
def found : Source → Except Problem Found
  | null => .ok .null
  | flag value => .ok (.boolean value)
  | number (.integer value) => .ok (.integer value)
  | number .real => .ok .real
  | number .vast => .error .malformed
  | text (some content) => .ok (.text content)
  | text none => .error .malformed
  | array _ _ => .ok .sequence
  | object _ _ => .ok .map
  | keyless _ => .ok .map
  | misspelt fault => .error fault.strict.problem
  | broken fault => .error fault.strict.problem

def refuse {α : Type} (wanted : String) (source : Source) : Except Problem α := do
  let found ← source.found
  throw (.mismatch (.wrongType found wanted))

mutual

def skip? : Source → Option Cause
  | broken fault => some fault.loose
  | misspelt fault => some fault.loose
  | keyless _ => some .malformed
  | array items stop => (skipItems? items).or (stop.map (·.loose))
  | object members stop => (skipMembers? members).or (stop.map (·.loose))
  | null => none
  | flag _ => none
  | number _ => none
  | text _ => none

def skipItems? : List Source → Option Cause
  | [] => none
  | item :: items => item.skip?.or (skipItems? items)

def skipMembers? : List (Key × Source) → Option Cause
  | [] => none
  | (key, value) :: members => (key.skip?.or value.skip?).or (skipMembers? members)

end

end Source

def closing : Option Fault → Except Problem Unit
  | none => .ok ()
  | some fault => .error fault.strict.problem

end DeviceMatrix.Json
