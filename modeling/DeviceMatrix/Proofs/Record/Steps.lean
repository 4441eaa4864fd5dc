/-! Readers step by step. A reader that ends well has ended each of its steps well. -/
namespace DeviceMatrix

variable {ε α β : Type}

theorem bind_ok {step : Except ε α} {next : α → Except ε β} {result : β}
    (done : step >>= next = .ok result) :
    ∃ content, step = .ok content ∧ next content = .ok result := by
  cases step with
  | error problem => contradiction
  | ok content => exact ⟨content, rfl, done⟩

theorem bind_eq_ok_iff {step : Except ε α} {next : α → Except ε β} {result : β} :
    step >>= next = .ok result ↔ ∃ content, step = .ok content ∧ next content = .ok result := by
  constructor
  · exact bind_ok
  · rintro ⟨content, rfl, done⟩
    exact done

theorem map_ok {step : Except ε α} {f : α → β} {result : β}
    (done : step.map f = .ok result) : ∃ content, step = .ok content ∧ f content = result := by
  cases step with
  | error problem => contradiction
  | ok content => exact ⟨content, rfl, Except.ok.inj done⟩

theorem map_eq_ok_iff {step : Except ε α} {f : α → β} {result : β} :
    step.map f = .ok result ↔ ∃ content, step = .ok content ∧ f content = result := by
  constructor
  · exact map_ok
  · rintro ⟨content, rfl, rfl⟩
    rfl

end DeviceMatrix
