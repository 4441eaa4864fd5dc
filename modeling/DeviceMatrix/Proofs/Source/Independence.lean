import DeviceMatrix.Proofs.Summary.Listing

/-! Calls of both kinds on one source that answers from two queues. A listing uses up pages and
looks at nothing else, a call for an outcome uses up the replies to such requests and looks at
nothing else. So in every sequence of calls the ones of each kind are answered as if the others
were not made. -/
namespace DeviceMatrix

/-- What can be called: the listings and the outcome of a fetcher, and the two requests of its
source themselves. -/
inductive Call where
  | steps (handle : ExecutionHandle) (pageSize : Nat)
  | summary (handle : ExecutionHandle) (pageSize : Nat)
  | rollup (handle : ExecutionHandle) (pageSize : Nat)
  | listPage (handle : ExecutionHandle) (token : Option String) (pageSize : Nat)
  | askOutcome (handle : ExecutionHandle)
  deriving DecidableEq, Repr

inductive Answer where
  | steps (value : Except SummaryError (List Step))
  | summary (value : Except SummaryError (List TestOutcome))
  | rollup (value : Except SummaryError Outcome)
  | listPage (value : Except ServiceError StepPage)
  | askOutcome (value : Except ServiceError Outcome)

/-- A call with its answer, its log and the requests that it made. -/
structure Answered where
  call : Call
  answer : Answer
  log : List Line
  requests : List Request

namespace Call

def isListing : Call → Bool
  | steps .. | summary .. | listPage .. => true
  | rollup .. | askOutcome .. => false

open Script (fetcher play source)

/-- The call made on a source that answers from a script. A listing may make so many requests. -/
def make (limit : Nat) : Call → StateT (List Request) (StateM Script) (Logged Answer)
  | steps handle pageSize => do
    return ((← (fetcher handle pageSize).steps limit).map .steps)
  | summary handle pageSize => do
    return ((← (fetcher handle pageSize).summary limit).map .summary)
  | rollup handle pageSize => do return ((← (fetcher handle pageSize).rollup).map .rollup)
  | listPage handle token pageSize => do
    return ((← source.noted.list handle token pageSize).map .listPage)
  | askOutcome handle => do return ((← source.noted.rollup handle).map .askOutcome)

/-- The call answered, and what is left of the script. -/
def run (limit : Nat) (call : Call) (script : Script) : Answered × Script :=
  let done := play (call.make limit) [] script
  (⟨call, done.1.1.value, done.1.1.log, done.1.2⟩, done.2)

def runAll (limit : Nat) : List Call → Script → List Answered
  | [], _ => []
  | call :: calls, script =>
    (call.run limit script).1 :: runAll limit calls (call.run limit script).2

end Call

namespace Script

def withRollups (rollups : List (Except ServiceError Outcome)) (script : Script) : Script :=
  { script with rollups }

def withPages (pages : List (Except ServiceError StepPage)) (script : Script) : Script :=
  { script with pages }

/-- The action does not see that part of a script which a change is about, and leaves it. -/
def Blind {α : Type} (change : Script → Script)
    (action : StateT (List Request) (StateM Script) α) : Prop :=
  ∀ requests script, play action requests (change script) =
    ((play action requests script).1, change (play action requests script).2)

section

variable {α β : Type} {change : Script → Script}

theorem Blind.pure (value : α) : Blind change (pure value) := fun _ _ => rfl

theorem Blind.bind {action : StateT (List Request) (StateM Script) α}
    {f : α → StateT (List Request) (StateM Script) β} (first : Blind change action)
    (each : ∀ value, Blind change (f value)) : Blind change (action >>= f) := by
  intro requests script
  rw [play_bind, first, play_bind, each]

end

section

variable (handle : ExecutionHandle) (pageSize limit : Nat)

theorem blind_list (rollups : List (Except ServiceError Outcome)) (token : Option String) :
    Blind (withRollups rollups) (source.noted.list handle token pageSize) := by
  rintro requests ⟨pages, others⟩
  cases pages <;> rfl

theorem blind_rollup (pages : List (Except ServiceError StepPage)) :
    Blind (withPages pages) (source.noted.rollup handle) := by
  rintro requests ⟨others, rollups⟩
  cases rollups <;> rfl

/-- The induction is on the requests that a listing may still make. -/
theorem blind_listFrom (rollups : List (Except ServiceError Outcome)) (token : Option String) :
    Blind (withRollups rollups) ((fetcher handle pageSize).listFrom limit token) := by
  induction limit generalizing token with
  | zero => exact .pure _
  | succ limit ih =>
    rw [Fetcher.listFrom_succ]
    refine (blind_list handle pageSize rollups token).bind fun reply => ?_
    obtain ⟨value, log⟩ := reply
    cases value with
    | error error =>
      rw [Fetcher.proceed_error]
      exact .pure _
    | ok page =>
      cases next : page.next? with
      | none =>
        rw [Fetcher.proceed_last _ _ next]
        exact .pure _
      | some token =>
        rw [Fetcher.proceed_next _ _ next]
        exact (ih (some token)).bind fun _ => .pure _

theorem blind_summary (rollups : List (Except ServiceError Outcome)) :
    Blind (withRollups rollups) ((fetcher handle pageSize).summary limit) := by
  refine (blind_listFrom handle pageSize limit rollups none).bind fun fetched => ?_
  cases fetched.value with
  | error error => exact .pure _
  | ok steps => exact .pure _

theorem blind_fetchRollup (pages : List (Except ServiceError StepPage)) :
    Blind (withPages pages) (fetcher handle pageSize).rollup := by
  refine (blind_rollup handle pages).bind fun reply => ?_
  cases reply.value with
  | error error => exact .pure _
  | ok outcome => exact .pure _

end

end Script

namespace Call

open Script (Blind withPages withRollups)

variable (limit : Nat)

theorem blind_make_of_isListing {call : Call} (listing : call.isListing)
    (rollups : List (Except ServiceError Outcome)) :
    Blind (withRollups rollups) (call.make limit) := by
  cases call with
  | steps handle pageSize =>
    exact (Script.blind_listFrom handle pageSize limit rollups none).bind fun _ => .pure _
  | summary handle pageSize =>
    exact (Script.blind_summary handle pageSize limit rollups).bind fun _ => .pure _
  | listPage handle token pageSize =>
    exact (Script.blind_list handle pageSize rollups token).bind fun _ => .pure _
  | rollup => contradiction
  | askOutcome => contradiction

theorem blind_make_of_not_isListing {call : Call} (other : ¬call.isListing)
    (pages : List (Except ServiceError StepPage)) :
    Blind (withPages pages) (call.make limit) := by
  cases call with
  | rollup handle pageSize =>
    exact (Script.blind_fetchRollup handle pageSize pages).bind fun _ => .pure _
  | askOutcome handle => exact (Script.blind_rollup handle pages).bind fun _ => .pure _
  | steps => exact absurd rfl other
  | summary => exact absurd rfl other
  | listPage => exact absurd rfl other

theorem run_of_blind {change : Script → Script} {call : Call}
    (blind : Blind change (call.make limit)) (script : Script) :
    call.run limit (change script) =
      ((call.run limit script).1, change (call.run limit script).2) := by
  unfold run
  rw [blind]

/-- A sequence of calls of which some see only one view of the script and the others leave that
view alone. Those that see it are answered as if the others were not made. The induction is on
the calls, with two scripts of the same view. -/
theorem filter_runAll {ν : Type} (mine : Call → Bool) (view : Script → ν)
    (sees : ∀ call script other, mine call → view script = view other →
      (call.run limit script).1 = (call.run limit other).1 ∧
        view (call.run limit script).2 = view (call.run limit other).2)
    (leaves : ∀ call script, ¬mine call → view (call.run limit script).2 = view script)
    (calls : List Call) (script other : Script) (same : view script = view other) :
    (runAll limit calls script).filter (mine ·.call) = runAll limit (calls.filter mine) other := by
  induction calls generalizing script other with
  | nil => rfl
  | cons call calls ih =>
    have named : (call.run limit script).1.call = call := rfl
    rw [runAll, List.filter_cons, List.filter_cons, named]
    by_cases its : mine call
    · obtain ⟨answered, onwards⟩ := sees call script other its same
      rw [if_pos its, if_pos its, runAll, answered, ih _ _ onwards]
    · rw [if_neg its, if_neg its, ih _ other ((leaves call script its).trans same)]

theorem run_listing {call : Call} (listing : call.isListing) {script other : Script}
    (same : script.pages = other.pages) :
    (call.run limit script).1 = (call.run limit other).1 ∧
      (call.run limit script).2.pages = (call.run limit other).2.pages ∧
      (call.run limit script).2.rollups = script.rollups := by
  have changed : script = withRollups script.rollups other := by
    rw [withRollups, ← same]
  have run := run_of_blind limit (blind_make_of_isListing limit listing script.rollups) other
  rw [← changed] at run
  rw [run]
  exact ⟨rfl, rfl, rfl⟩

theorem run_not_listing {call : Call} (outcome : ¬call.isListing) {script other : Script}
    (same : script.rollups = other.rollups) :
    (call.run limit script).1 = (call.run limit other).1 ∧
      (call.run limit script).2.rollups = (call.run limit other).2.rollups ∧
      (call.run limit script).2.pages = script.pages := by
  have changed : script = withPages script.pages other := by
    rw [withPages, ← same]
  have run := run_of_blind limit (blind_make_of_not_isListing limit outcome script.pages) other
  rw [← changed] at run
  rw [run]
  exact ⟨rfl, rfl, rfl⟩

/-! What a call asks for. Nothing is asked for again, whether it was answered or refused. -/

def requests (pages : List (Except ServiceError StepPage)) : Call → List Request
  | steps handle pageSize | summary handle pageSize => Script.asked handle pageSize none pages
  | listPage handle token pageSize => [.list handle token pageSize]
  | rollup handle _ | askOutcome handle => [.rollup handle]

end Call

namespace Script

def unscripted : ServiceError := .backend "no rollup scripted"

/-- The reply to the next request for an outcome. -/
def nextRollup (script : Script) : Except ServiceError Outcome :=
  script.rollups.head?.getD (.error unscripted)

/-- What is left of a script when each of the requests has used up a reply of its kind. -/
def usedBy (requests : List Request) (script : Script) : Script where
  pages := script.pages.drop (requests.countP (·.isList))
  rollups := script.rollups.drop (requests.countP (!·.isList))

variable (handle : ExecutionHandle) (pageSize : Nat)

theorem usedBy_asked (script : Script) :
    script.usedBy (asked handle pageSize none script.pages) =
      ⟨script.pages.drop (stop script.pages + 1), script.rollups⟩ := by
  simp [usedBy, asked, List.countP_map, Function.comp_def, Request.isList]

theorem play_summary (limit : Nat) (script : Script) :
    (play ((fetcher handle pageSize).summary limit) [] script).1.2 =
        (play ((fetcher handle pageSize).steps limit) [] script).1.2 ∧
      (play ((fetcher handle pageSize).summary limit) [] script).2 =
        (play ((fetcher handle pageSize).steps limit) [] script).2 := by
  rw [Fetcher.summary, play_bind]
  cases (play ((fetcher handle pageSize).steps limit) [] script).1.1.value <;> exact ⟨rfl, rfl⟩

end Script

namespace Call

variable {limit : Nat} {script : Script}

theorem run_rollup (handle : ExecutionHandle) (pageSize : Nat) :
    ((rollup handle pageSize).run limit script).1.answer =
      .rollup (script.nextRollup.mapError .fetchRollup) := by
  obtain ⟨pages, rollups⟩ := script
  match rollups with
  | [] => rfl
  | .error error :: rollups => rfl
  | .ok outcome :: rollups => rfl

theorem run_requests (enough : script.pages.length < limit) (call : Call) :
    (call.run limit script).1.requests = call.requests script.pages ∧
      (call.run limit script).2 = script.usedBy (call.requests script.pages) := by
  have listed (handle : ExecutionHandle) (pageSize : Nat) :
      (Script.play ((Script.fetcher handle pageSize).steps limit) [] script).1.2 =
          Script.asked handle pageSize none script.pages ∧
        (Script.play ((Script.fetcher handle pageSize).steps limit) [] script).2 =
          script.usedBy (Script.asked handle pageSize none script.pages) := by
    have run := Script.play_listFrom handle pageSize none script.rollups [] limit enough
    change Script.play ((Script.fetcher handle pageSize).steps limit) [] script = _ at run
    rw [run, Script.usedBy_asked]
    exact ⟨rfl, rfl⟩
  cases call with
  | steps handle pageSize => exact listed handle pageSize
  | summary handle pageSize =>
    obtain ⟨asked, left⟩ := Script.play_summary handle pageSize limit script
    obtain ⟨requests, rest⟩ := listed handle pageSize
    exact ⟨asked.trans requests, left.trans rest⟩
  | listPage handle token pageSize =>
    obtain ⟨pages, rollups⟩ := script
    cases pages <;> exact ⟨rfl, rfl⟩
  | rollup handle pageSize =>
    obtain ⟨pages, rollups⟩ := script
    match rollups with
    | [] => exact ⟨rfl, rfl⟩
    | .error error :: rollups => exact ⟨rfl, rfl⟩
    | .ok outcome :: rollups => exact ⟨rfl, rfl⟩
  | askOutcome handle =>
    obtain ⟨pages, rollups⟩ := script
    cases rollups <;> exact ⟨rfl, rfl⟩

/-- Listings and rollups do not disturb each other. In every sequence of calls the listings are
answered, logged and made of the same requests as if no outcome had been asked for, and the other
way round. A rollup is one request with its own handle and returns the next reply to such a
request, a refusal as the error of the rollup. Each request of a call uses up one reply, and a
call makes no request but those of its listing up to the reply that ends it. -/
theorem listings_and_rollups_are_independent (enough : script.pages.length < limit)
    (calls : List Call) :
    (runAll limit calls script).filter (·.call.isListing) =
        runAll limit (calls.filter (·.isListing)) script ∧
    (runAll limit calls script).filter (!·.call.isListing) =
        runAll limit (calls.filter (!·.isListing)) script ∧
    (∀ handle pageSize, ((rollup handle pageSize).run limit script).1.requests = [.rollup handle] ∧
      ((rollup handle pageSize).run limit script).1.answer =
        .rollup (script.nextRollup.mapError .fetchRollup)) ∧
    ∀ call : Call, (call.run limit script).1.requests = call.requests script.pages ∧
      (call.run limit script).2 = script.usedBy (call.requests script.pages) := by
  refine ⟨?_, ?_, fun handle pageSize => ⟨?_, run_rollup handle pageSize⟩, run_requests enough⟩
  · refine filter_runAll limit isListing (·.pages) ?_ ?_ calls script script rfl
    · intro call script other listing same
      obtain ⟨answered, pages, -⟩ := run_listing limit listing same
      exact ⟨answered, pages⟩
    · intro call script outcome
      exact (run_not_listing limit outcome (rfl : script.rollups = script.rollups)).2.2
  · refine filter_runAll limit (!·.isListing) (·.rollups) ?_ ?_ calls script script rfl
    · intro call script other outcome same
      obtain ⟨answered, rollups, -⟩ := run_not_listing limit (by simpa using outcome) same
      exact ⟨answered, rollups⟩
    · intro call script listing
      exact (run_listing limit (by simpa using listing) (rfl : script.pages = script.pages)).2.2
  · exact (run_requests enough (rollup handle pageSize)).1

/-- A listing that fails on its second page, with a rollup before it and after it. -/
theorem failed_listing_between_rollups :
    let script : Script := {
      pages := [.ok { steps := [{}], nextToken := some "t" }, .error (.timeout "late"),
        .ok { steps := [] }]
      rollups := [.error (.io "gone"), .ok {}] }
    let handle : ExecutionHandle := ⟨"p", "h", "e"⟩
    script.pages.length < Fetcher.requestLimit ∧
    (runAll Fetcher.requestLimit
        [.rollup handle 2, .summary handle 2, .askOutcome handle, .steps handle 2] script).filter
          (·.call.isListing) =
      runAll Fetcher.requestLimit [.summary handle 2, .steps handle 2] script ∧
    ((rollup handle 2).run Fetcher.requestLimit script).1.answer =
      .rollup (.error (.fetchRollup (.io "gone"))) ∧
    ((summary handle 2).run Fetcher.requestLimit script).1.requests =
      [.list handle none 2, .list handle (some "t") 2] := by
  intro script handle
  have enough : script.pages.length < Fetcher.requestLimit := by decide
  obtain ⟨listings, -, rollups, requests⟩ := listings_and_rollups_are_independent enough
    [.rollup handle 2, .summary handle 2, .askOutcome handle, .steps handle 2]
  exact ⟨enough, listings, (rollups handle 2).2, (requests (summary handle 2)).1⟩

end Call
end DeviceMatrix
