import DeviceMatrix.Source.Scripted
import DeviceMatrix.Summary.Fetch

/-! A listing is one request after another, each with the token of the page before, until a
request fails or a page has no token to go on with. Against a source that answers from a script
the whole run is known beforehand: `Script.stop` is the place of the reply that ends it. -/
namespace DeviceMatrix

namespace Fetcher

variable {m : Type → Type} [Monad m]

/-- What a listing makes of one reply; `more` lists from the next token on. -/
def proceed (fetcher : Fetcher m) (more : Option String → m (Fetched (List Step)))
    (reply : Reply StepPage) : m (Fetched (List Step)) :=
  match reply.value with
  | .error error => pure ⟨.error (.listSteps error), reply.log⟩
  | .ok page =>
    let log := reply.log ++ [fetcher.pageLine page]
    match page.next? with
    | none => pure ⟨.ok page.steps, log⟩
    | some next => do
      let rest ← more (some next)
      pure ((rest.map fun steps => steps.map (page.steps ++ ·)).after log)

theorem listFrom_succ (fetcher : Fetcher m) (limit : Nat) (token : Option String) :
    fetcher.listFrom (limit + 1) token =
      fetcher.source.list fetcher.handle token fetcher.pageSize >>=
        fetcher.proceed (fetcher.listFrom limit) := rfl

variable (fetcher : Fetcher m) (more : Option String → m (Fetched (List Step)))

theorem proceed_error (error : ServiceError) (log : List Line) :
    fetcher.proceed more ⟨.error error, log⟩ = pure ⟨.error (.listSteps error), log⟩ := rfl

theorem proceed_last {page : StepPage} (last : page.next? = none) (log : List Line) :
    fetcher.proceed more ⟨.ok page, log⟩ =
      pure ⟨.ok page.steps, log ++ [fetcher.pageLine page]⟩ := by
  simp [proceed, last]

theorem proceed_next {page : StepPage} {next : String} (going : page.next? = some next)
    (log : List Line) :
    fetcher.proceed more ⟨.ok page, log⟩ = (do
      let rest ← more (some next)
      pure ((rest.map fun steps => steps.map (page.steps ++ ·)).after
        (log ++ [fetcher.pageLine page]))) := by
  simp [proceed, going]

end Fetcher

/-- The warnings among the lines of a log. -/
def Logged.warnings {α : Type} (logged : Logged α) : List Line :=
  logged.log.filter (·.level = .warn)

theorem StepPage.next?_eq_some {page : StepPage} {next : String} :
    page.next? = some next ↔ page.nextToken = some next ∧ next ≠ "" := by
  simp [StepPage.next?, Option.filter_eq_some_iff]

theorem StepPage.next?_eq_none {page : StepPage} :
    page.next? = none ↔ page.nextToken = none ∨ page.nextToken = some "" := by
  cases token : page.nextToken <;> simp [StepPage.next?, token]

namespace Script

/-- What a source says to a request when its script is used up. -/
def exhausted : ServiceError := .backend "listed past the last page"

/-- Replies that end a listing: errors, and pages whose token is absent or empty. -/
def ends : Except ServiceError StepPage → Bool
  | .error _ => true
  | .ok page => page.nextToken = none ∨ page.nextToken = some ""

/-- The place of the first reply that ends a listing; without one, the end of the script. -/
def stop (pages : List (Except ServiceError StepPage)) : Nat := pages.findIdx ends

def token? : Except ServiceError StepPage → Option String
  | .error _ => none
  | .ok page => page.nextToken

def steps : Except ServiceError StepPage → List Step
  | .error _ => []
  | .ok page => page.steps

/-- The token of each request, where the first has the one given and every other the token of
the page before it. -/
def tokenAt (first : Option String) (pages : List (Except ServiceError StepPage)) :
    Nat → Option String
  | 0 => first
  | i + 1 => pages[i]?.bind token?

/-- What a listing over these replies comes to. -/
def listed (pages : List (Except ServiceError StepPage)) : Except SummaryError (List Step) :=
  match pages[stop pages]? with
  | none => .error (.listSteps exhausted)
  | some (.error error) => .error (.listSteps error)
  | some (.ok _) => .ok ((pages.take (stop pages + 1)).flatMap steps)

theorem ends_iff_next?_eq_none {page : StepPage} : ends (.ok page) ↔ page.next? = none := by
  simp [ends, StepPage.next?_eq_none]

variable {pages : List (Except ServiceError StepPage)} {reply : Except ServiceError StepPage}

theorem stop_cons_of_ends (last : ends reply) : stop (reply :: pages) = 0 := by
  simp [stop, List.findIdx_cons, last]

theorem stop_cons_of_not_ends (going : ¬ends reply) : stop (reply :: pages) = stop pages + 1 := by
  simp [stop, List.findIdx_cons, going]

theorem listed_cons {page : StepPage} (going : ¬ends (.ok page)) :
    listed (.ok page :: pages) = (listed pages).map (page.steps ++ ·) := by
  unfold listed
  rw [stop_cons_of_not_ends going, List.getElem?_cons_succ]
  cases pages[stop pages]? with
  | none => rfl
  | some reply =>
    cases reply with
    | error error => rfl
    | ok last => simp [steps, Except.map]

theorem tokenAt_cons_succ (first : Option String) (i : Nat) :
    tokenAt first (reply :: pages) (i + 1) = tokenAt (token? reply) pages i := by
  cases i <;> rfl

/-- The requests of a listing that starts with a given token. -/
def asked (handle : ExecutionHandle) (pageSize : Nat) (first : Option String)
    (pages : List (Except ServiceError StepPage)) : List Request :=
  (List.range (stop pages + 1)).map fun i => .list handle (tokenAt first pages i) pageSize

variable (handle : ExecutionHandle) (pageSize : Nat) (first : Option String)

theorem asked_cons_of_ends (last : ends reply) :
    asked handle pageSize first (reply :: pages) = [.list handle first pageSize] := by
  simp [asked, stop_cons_of_ends last, tokenAt]

theorem asked_cons_of_not_ends (going : ¬ends reply) :
    asked handle pageSize first (reply :: pages) =
      .list handle first pageSize :: asked handle pageSize (token? reply) pages := by
  simp only [asked, stop_cons_of_not_ends going, List.range_succ_eq_map (n := stop pages + 1),
    List.map_cons, List.map_map]
  congr 1
  apply List.map_congr_left
  intro i _
  exact congrArg (Request.list handle · pageSize) (tokenAt_cons_succ first i)

def fetcher : Fetcher (StateT (List Request) (StateM Script)) :=
  ⟨source.noted, handle, pageSize⟩

def lines : Except ServiceError StepPage → List Line
  | .error _ => []
  | .ok page => [(fetcher handle pageSize).pageLine page]

def play {α : Type} (action : StateT (List Request) (StateM Script) α) (requests : List Request)
    (script : Script) : (α × List Request) × Script :=
  (action.run requests).run script

variable (rollups : List (Except ServiceError Outcome)) (requests : List Request) (limit : Nat)

theorem play_pure {α : Type} (value : α) (script : Script) :
    play (pure value) requests script = ((value, requests), script) := rfl

theorem play_bind {α β : Type} (action : StateT (List Request) (StateM Script) α)
    (f : α → StateT (List Request) (StateM Script) β) (script : Script) :
    play (action >>= f) requests script =
      play (f (play action requests script).1.1) (play action requests script).1.2
        (play action requests script).2 := rfl

theorem play_list_nil {α : Type} (f : Reply StepPage → StateT (List Request) (StateM Script) α) :
    play (source.noted.list handle first pageSize >>= f) requests ⟨[], rollups⟩ =
      play (f ⟨.error exhausted, []⟩) (requests ++ [.list handle first pageSize]) ⟨[], rollups⟩ :=
  rfl

theorem play_list_cons {α : Type} (f : Reply StepPage → StateT (List Request) (StateM Script) α) :
    play (source.noted.list handle first pageSize >>= f) requests ⟨reply :: pages, rollups⟩ =
      play (f ⟨reply, []⟩) (requests ++ [.list handle first pageSize]) ⟨pages, rollups⟩ := rfl

/-- Every listing over a script, from any token on. One page less is left to the rest of the
run, which starts with that page's token. -/
theorem play_listFrom (enough : pages.length < limit) :
    play ((fetcher handle pageSize).listFrom limit first) requests ⟨pages, rollups⟩ =
      ((⟨listed pages, (pages.take (stop pages + 1)).flatMap (lines handle pageSize)⟩,
        requests ++ asked handle pageSize first pages),
        ⟨pages.drop (stop pages + 1), rollups⟩) := by
  induction pages generalizing limit first requests with
  | nil =>
    obtain ⟨limit, rfl⟩ := Nat.exists_eq_add_one_of_ne_zero (Nat.ne_of_gt enough)
    rw [Fetcher.listFrom_succ]
    exact play_list_nil handle pageSize first rollups requests _
  | cons reply pages ih =>
    obtain ⟨limit, rfl⟩ := Nat.exists_eq_add_one_of_ne_zero (Nat.ne_zero_of_lt enough)
    rw [Fetcher.listFrom_succ]
    refine (play_list_cons handle pageSize first rollups requests _).trans ?_
    cases reply with
    | error error =>
      have last : ends (.error error) := rfl
      rw [Fetcher.proceed_error, asked_cons_of_ends handle pageSize first last, play_pure]
      simp [listed, stop_cons_of_ends last, lines]
    | ok page =>
      cases token : page.next? with
      | none =>
        have last : ends (.ok page) := ends_iff_next?_eq_none.2 token
        rw [Fetcher.proceed_last _ _ token, asked_cons_of_ends handle pageSize first last,
          play_pure]
        simp [listed, stop_cons_of_ends last, steps, lines]
      | some next =>
        have going : ¬ends (.ok page) := by simp [ends_iff_next?_eq_none, token]
        have follows : token? (.ok page) = some next := (StepPage.next?_eq_some.1 token).1
        have rest := ih (some next) (requests ++ [.list handle first pageSize]) limit
          (by simpa using enough)
        rw [Fetcher.proceed_next _ _ token, listed_cons going, stop_cons_of_not_ends going,
          asked_cons_of_not_ends handle pageSize first going, follows]
        rw [play_bind, rest, play_pure]
        simp [lines, Logged.map, Logged.after]

/-- A listing over a script asks once for every reply up to the first that ends it and leaves
all later replies where they are. The first request has no token, every other one the token of
the page before it, and all have the handle and the page size of the fetcher. The outcome is
the steps of all pages in order, or the error of the one reply that is no page, or that of the
script's end. How many requests a listing may make at most does not show. -/
theorem listing_follows_script (script : Script) (enough : script.pages.length < limit) :
    let run := play ((fetcher handle pageSize).steps limit) [] script
    run.1.2 = (List.range (stop script.pages + 1)).map
      (fun i => .list handle (tokenAt none script.pages i) pageSize) ∧
    run.2 = { script with pages := script.pages.drop (stop script.pages + 1) } ∧
    run.1.1.value = match script.pages[stop script.pages]? with
      | none => .error (.listSteps exhausted)
      | some (.error error) => .error (.listSteps error)
      | some (.ok _) => .ok ((script.pages.take (stop script.pages + 1)).flatMap steps) := by
  have run := play_listFrom handle pageSize none script.rollups [] limit enough
  change play ((fetcher handle pageSize).steps limit) [] script = _ at run
  rw [run]
  exact ⟨rfl, rfl, rfl⟩

/-- Two pages with the same token, one of them empty, then a page with an empty token. -/
def threePages : Script where
  pages := [.ok { steps := [{ id := some "a" }], nextToken := some "t" },
    .ok { steps := [], nextToken := some "t" },
    .ok { steps := [{ id := some "b" }], nextToken := some "" }, .error (.backend "unread")]
  rollups := []

theorem listing_three_pages :
    threePages.pages.length < Fetcher.requestLimit ∧
    let handle : ExecutionHandle := ⟨"p", "h", "e"⟩
    let run := play (fetcher handle 2).steps [] threePages
    run.1.2 = [.list handle none 2, .list handle (some "t") 2, .list handle (some "t") 2] ∧
    run.2 = { pages := [.error (.backend "unread")], rollups := [] } ∧
    run.1.1.value = .ok [{ id := some "a" }, { id := some "b" }] := by
  have enough : threePages.pages.length < Fetcher.requestLimit := by decide
  exact ⟨enough, listing_follows_script ⟨"p", "h", "e"⟩ 2 Fetcher.requestLimit threePages enough⟩

end Script
end DeviceMatrix
