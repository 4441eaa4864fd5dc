import DeviceMatrix.Results.Dump
import DeviceMatrix.Source.Basic
import DeviceMatrix.Summary.TestOutcome

/-! Reading an execution from a step source: all its steps, page by page, and its outcome.
Each page but the first is asked for with the token of the page before it; a page without a
token, or with an empty one, is the last. No request is made twice. -/
namespace DeviceMatrix

inductive SummaryError where
  | listSteps (error : ServiceError)
  | fetchRollup (error : ServiceError)
  /-- The pages did not end within the number of requests allowed. -/
  | endless
  deriving DecidableEq, Repr

namespace SummaryError

def cause? : SummaryError → Option ServiceError
  | listSteps error => some error
  | fetchRollup error => some error
  | endless => none

def message : SummaryError → String
  | listSteps error => "error while listing test results: " ++ error.message
  | fetchRollup error => "error fetching test roll-up outcome: " ++ error.message
  | endless => "error while listing test results: there is no last page"

end SummaryError

/-- The token that asks for the page after this one. -/
def StepPage.next? (page : StepPage) : Option String := page.nextToken.filter (· ≠ "")

structure Fetcher (m : Type → Type) where
  source : StepSource m
  handle : ExecutionHandle
  pageSize : Nat := 100

abbrev Fetched (α : Type) := Logged (Except SummaryError α)

namespace Fetcher

variable {m : Type → Type} [Monad m]

def pageLine (fetcher : Fetcher m) (page : StepPage) : Line :=
  ⟨.debug, fetcher.source.name ++ " returned " ++ Decimal.ofNat page.steps.length ++
    " steps for " ++ fetcher.handle.show ++ ", next page token " ++
    dumpOption Text.quoted page.nextToken⟩

/-- The steps from the page that the token asks for on, in at most `limit` requests. -/
def listFrom (fetcher : Fetcher m) : Nat → Option String → m (Fetched (List Step))
  | 0, _ => pure ⟨.error .endless, []⟩
  | limit + 1, token => do
    let reply ← fetcher.source.list fetcher.handle token fetcher.pageSize
    match reply.value with
    | .error error => pure ⟨.error (.listSteps error), reply.log⟩
    | .ok page =>
      let log := reply.log ++ [fetcher.pageLine page]
      match page.next? with
      | none => pure ⟨.ok page.steps, log⟩
      | some next => do
        let rest ← listFrom fetcher limit (some next)
        pure ((rest.map fun steps => steps.map (page.steps ++ ·)).after log)

/-- More requests than any listing can need whose offsets fit 64 bits. -/
def requestLimit : Nat := Decimal.maxWord + 1

def steps (fetcher : Fetcher m) (limit : Nat := requestLimit) : m (Fetched (List Step)) :=
  fetcher.listFrom limit none

/-- The rows of all steps, with the warnings about steps that have none. -/
def summary (fetcher : Fetcher m) (limit : Nat := requestLimit) :
    m (Fetched (List TestOutcome)) := do
  let fetched ← fetcher.steps limit
  match fetched.value with
  | .error error => pure ⟨.error error, fetched.log⟩
  | .ok steps => pure (((summarize steps).map .ok).after fetched.log)

def rollupLine (fetcher : Fetcher m) (outcome : Outcome) : Line :=
  ⟨.debug, "Rollup outcome for " ++ fetcher.handle.show ++ ": " ++ outcome.dump⟩

def rollup (fetcher : Fetcher m) : m (Fetched Outcome) := do
  let reply ← fetcher.source.rollup fetcher.handle
  match reply.value with
  | .error error => pure ⟨.error (.fetchRollup error), reply.log⟩
  | .ok outcome => pure ⟨.ok outcome, reply.log ++ [fetcher.rollupLine outcome]⟩

end Fetcher
end DeviceMatrix
