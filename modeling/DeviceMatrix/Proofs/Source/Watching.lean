import DeviceMatrix.Host.Basic
import DeviceMatrix.Proofs.Summary.Listing

/-! Actions watched for the requests that they make. A watched action does what the action itself
does, on the same system and with the same value, and notes requests beside it. A listing notes
requests that differ in nothing but their tokens. -/
namespace DeviceMatrix

/-- The same system, for actions that note requests. -/
def Host.watched {m : Type → Type} [Monad m] (host : Host m) :
    Host (StateT (List Request) m) where
  home := host.home
  read path := host.read path
  present path := host.present path
  makeDirectories path := host.makeDirectories path
  write path content := host.write path content
  run invocation := host.run invocation

section

variable {σ α β γ δ : Type} {view : α → β} {watched : StateT (List Request) (StateM σ) β}
  {plain : StateM σ α} {state : σ} {made others : List Request} {fits : Request → Prop}

/-- From the state on, the watched action makes these requests. Apart from that it does what the
action does, and gives what `view` makes of its value. -/
def Makes (view : α → β) (watched : StateT (List Request) (StateM σ) β) (plain : StateM σ α)
    (state : σ) (made : List Request) : Prop :=
  ∀ requests, (watched.run requests).run state =
    ((view (plain.run state).1, requests ++ made), (plain.run state).2)

theorem Makes.pure (view : α → β) (value : α) (state : σ) :
    Makes view (pure (view value)) (pure value) state [] := by
  intro requests
  rw [List.append_nil]
  rfl

theorem Makes.bind {view' : γ → δ} {next : β → StateT (List Request) (StateM σ) δ}
    {goOn : α → StateM σ γ} (first : Makes view watched plain state made)
    (rest : Makes view' (next (view (plain.run state).1)) (goOn (plain.run state).1)
      (plain.run state).2 others) :
    Makes view' (watched >>= next) (plain >>= goOn) state (made ++ others) := by
  intro requests
  rw [StateT.run_bind, StateT.run_bind, first requests, ← List.append_assoc]
  exact rest (requests ++ made)

theorem Makes.noted (request : Request) (plain : StateM σ α) (state : σ) :
    Makes id (do modify (· ++ [request]); plain : StateT (List Request) (StateM σ) α) plain state
      [request] :=
  fun _ => rfl

/-- From every state on the watched action makes only requests that fit. -/
def Sends (fits : Request → Prop) (view : α → β) (watched : StateT (List Request) (StateM σ) β)
    (plain : StateM σ α) : Prop :=
  ∀ state, ∃ made, (∀ request ∈ made, fits request) ∧ Makes view watched plain state made

theorem Sends.pure (view : α → β) (value : α) :
    Sends fits view (pure (view value) : StateT (List Request) (StateM σ) β) (pure value) :=
  fun state => ⟨[], nofun, .pure view value state⟩

theorem Sends.bind {view' : γ → δ} {next : β → StateT (List Request) (StateM σ) δ}
    {goOn : α → StateM σ γ} (first : Sends fits view watched plain)
    (each : ∀ value, Sends fits view' (next (view value)) (goOn value)) :
    Sends fits view' (watched >>= next) (plain >>= goOn) := by
  intro state
  obtain ⟨made, fit, makes⟩ := first state
  obtain ⟨others, fit', rest⟩ := each (plain.run state).1 (plain.run state).2
  exact ⟨made ++ others, List.forall_mem_append.2 ⟨fit, fit'⟩, makes.bind rest⟩

theorem Sends.lift (plain : StateM σ α) :
    Sends fits id (liftM plain : StateT (List Request) (StateM σ) α) plain := by
  refine fun state => ⟨[], nofun, fun requests => ?_⟩
  rw [List.append_nil]
  rfl

abbrev Silent (view : α → β) (watched : StateT (List Request) (StateM σ) β)
    (plain : StateM σ α) : Prop := Sends (fun _ => False) view watched plain

theorem Silent.makes (silent : Silent view watched plain) (state : σ) :
    Makes view watched plain state [] := by
  obtain ⟨made, none, makes⟩ := silent state
  rwa [List.eq_nil_iff_forall_not_mem.2 none] at makes

theorem Silent.sends (silent : Silent view watched plain) : Sends fits view watched plain :=
  fun state => ⟨[], nofun, silent.makes state⟩

theorem Silent.exists_makes {view' : γ → δ} {next : β → StateT (List Request) (StateM σ) δ}
    {goOn : α → StateM σ γ} {post : α → List Request → Prop} (silent : Silent view watched plain)
    (each : ∀ value state, ∃ made, post value made ∧
      Makes view' (next (view value)) (goOn value) state made) (state : σ) :
    ∃ made, post (plain.run state).1 made ∧
      Makes view' (watched >>= next) (plain >>= goOn) state made := by
  obtain ⟨made, holds, makes⟩ := each (plain.run state).1 (plain.run state).2
  exact ⟨made, holds, (silent.makes state).bind makes⟩

end

namespace Fetcher

variable {σ : Type} (fetcher : Fetcher (StateM σ))

def noted : Fetcher (StateT (List Request) (StateM σ)) :=
  ⟨fetcher.source.noted, fetcher.handle, fetcher.pageSize⟩

def Asks (request : Request) : Prop :=
  ∃ token, request = .list fetcher.handle token fetcher.pageSize

theorem sends_list (token : Option String) :
    Sends fetcher.Asks id (fetcher.noted.source.list fetcher.handle token fetcher.pageSize)
      (fetcher.source.list fetcher.handle token fetcher.pageSize) := by
  intro state
  refine ⟨[.list fetcher.handle token fetcher.pageSize], ?_, .noted _ _ state⟩
  simpa using ⟨token, rfl⟩

theorem sends_listFrom (limit : Nat) (token : Option String) :
    Sends fetcher.Asks id (fetcher.noted.listFrom limit token) (fetcher.listFrom limit token) := by
  induction limit generalizing token with
  | zero => exact .pure id _
  | succ limit ih =>
    rw [listFrom_succ, listFrom_succ]
    refine (fetcher.sends_list token).bind fun reply => ?_
    obtain ⟨value, log⟩ := reply
    cases value with
    | error error => exact .pure id _
    | ok page =>
      cases next : page.next? with
      | none =>
        rw [id, proceed_last _ _ next, proceed_last _ _ next]
        exact .pure id _
      | some token =>
        rw [id, proceed_next _ _ next, proceed_next _ _ next]
        exact (ih (some token)).bind fun _ => .pure id _

theorem sends_summary (limit : Nat) :
    Sends fetcher.Asks id (fetcher.noted.summary limit) (fetcher.summary limit) := by
  refine (fetcher.sends_listFrom limit none).bind fun fetched => ?_
  rw [id]
  cases fetched.value with
  | error error => exact .pure id _
  | ok steps => exact .pure id _

theorem makes_rollup (state : σ) :
    Makes id fetcher.noted.rollup fetcher.rollup state [.rollup fetcher.handle] := by
  have asked := Makes.noted (.rollup fetcher.handle) (fetcher.source.rollup fetcher.handle) state
  refine asked.bind (?_ : Makes _ _ _ _ [])
  generalize (fetcher.source.rollup fetcher.handle).run state = answered
  obtain ⟨⟨value, log⟩, next⟩ := answered
  cases value with
  | error error => exact .pure id _ next
  | ok outcome => exact .pure id _ next

end Fetcher
end DeviceMatrix
