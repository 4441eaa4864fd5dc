import DeviceMatrix.Text.Decimal

/-! Decimal text read back. `digits` spells every number with digits only and, except for zero,
starts with no zero; `value` undoes it, and so does `word?` as far as 64 bits reach. -/
namespace DeviceMatrix.Decimal

theorem digitValue_digitChar : ∀ d < 10, digitValue (digitChar d) = d := by decide

theorem isDigit_digitChar : ∀ d < 10, (digitChar d).isDigit := by decide

theorem digitChar_ne_zero : ∀ d < 10, 0 < d → digitChar d ≠ '0' := by decide

theorem value_append_singleton (s : List Char) (c : Char) :
    value (s ++ [c]) = value s * 10 + digitValue c := by
  simp [value]

theorem digits_ne_nil (n : Nat) : digits n ≠ [] := by
  rw [digits]
  split <;> simp

theorem isDigit_of_mem_digits {n : Nat} {c : Char} (member : c ∈ digits n) : c.isDigit := by
  fun_induction digits n with
  | case1 n small =>
    rw [List.mem_singleton.mp member]
    exact isDigit_digitChar n small
  | case2 n _ ih =>
    rcases List.mem_append.mp member with front | last
    · exact ih front
    · rw [List.mem_singleton.mp last]
      exact isDigit_digitChar _ (Nat.mod_lt _ (by decide))

theorem all_isDigit_digits (n : Nat) : (digits n).all Char.isDigit :=
  List.all_eq_true.mpr fun _ member => isDigit_of_mem_digits member

@[simp] theorem value_digits (n : Nat) : value (digits n) = n := by
  fun_induction digits n with
  | case1 n small => simp [value, digitValue_digitChar n small]
  | case2 n _ ih =>
    rw [value_append_singleton, ih, digitValue_digitChar _ (Nat.mod_lt _ (by decide))]
    omega

theorem head?_digits {n : Nat} (positive : 0 < n) : (digits n).head? ≠ some '0' := by
  fun_induction digits n with
  | case1 n small =>
    have := digitChar_ne_zero n small positive
    simpa using this
  | case2 n large ih =>
    obtain ⟨c, rest, shape⟩ := List.exists_cons_of_ne_nil (digits_ne_nil (n / 10))
    have front := ih (by omega)
    rw [shape] at front ⊢
    simpa using front

/-- A number starts with a digit; a zero in front stands alone. -/
theorem digits_cases (n : Nat) :
    ∃ c rest, digits n = c :: rest ∧ c.isDigit ∧ (c = '0' → rest = []) := by
  obtain ⟨c, rest, shape⟩ := List.exists_cons_of_ne_nil (digits_ne_nil n)
  refine ⟨c, rest, shape, isDigit_of_mem_digits (n := n) (by simp [shape]), ?_⟩
  rintro rfl
  rcases Nat.eq_zero_or_pos n with rfl | positive
  · have single : digits 0 = ['0'] := by rw [digits]; rfl
    rw [single] at shape
    exact (List.cons.inj shape).2.symm
  · exact absurd (by simp [shape]) (head?_digits positive)

theorem natural?_digits (n : Nat) : natural? (digits n) = some n := by
  simp only [natural?, all_isDigit_digits, value_digits]
  exact if_pos ⟨digits_ne_nil n, trivial⟩

@[simp] theorem toList_ofNat (n : Nat) : (ofNat n).toList = digits n := by simp [ofNat]

theorem ofNat_injective : Function.Injective ofNat := by
  intro m n same
  have digits := congrArg String.toList same
  rw [toList_ofNat, toList_ofNat] at digits
  rw [← value_digits m, digits, value_digits]

theorem ofNat_ne_empty (n : Nat) : ofNat n ≠ "" := by
  intro empty
  have := congrArg String.toList empty
  simp [digits_ne_nil] at this

theorem word?_digits {n : Nat} (bound : n ≤ maxWord) : word? (digits n) = some n := by
  obtain ⟨c, rest, shape, digit, -⟩ := digits_cases n
  have unsigned : c ≠ '+' := by
    rintro rfl
    exact absurd digit (by decide)
  unfold word?
  rw [shape]
  split
  · rename_i same
    exact absurd (List.cons.inj same).1 unsigned
  · rw [← shape, natural?_digits]
    simp [bound]

/-- A text that spells a number of whatever size: digits, perhaps behind a plus sign. -/
def Spells (s : List Char) (n : Nat) : Prop :=
  ∃ run, (s = run ∨ s = '+' :: run) ∧ run ≠ [] ∧ (∀ c ∈ run, c.isDigit) ∧ value run = n

theorem natural?_eq_some_iff {s : List Char} {n : Nat} :
    natural? s = some n ↔ s ≠ [] ∧ (∀ c ∈ s, c.isDigit) ∧ value s = n := by
  simp [natural?, Option.ite_none_right_eq_some, and_assoc]

/-- A text is read as a number of 64 bits exactly if it spells one. -/
theorem word?_eq_some_iff {s : List Char} {n : Nat} :
    word? s = some n ↔ Spells s n ∧ n ≤ maxWord := by
  have unsigned {run : List Char} (digits : ∀ c ∈ run, c.isDigit) : ∀ rest, run ≠ '+' :: rest := by
    rintro rest rfl
    exact absurd (digits '+' List.mem_cons_self) (by decide)
  unfold word?
  rw [Option.filter_eq_some_iff, natural?_eq_some_iff, decide_eq_true_iff]
  refine and_congr_left fun _ => ⟨?_, ?_⟩
  · intro read
    split at read
    next rest => exact ⟨rest, .inr rfl, read⟩
    next => exact ⟨s, .inl rfl, read⟩
  · rintro ⟨run, rfl | rfl, found, digits, spelled⟩
    · split
      next rest => exact absurd rfl (unsigned digits rest)
      next => exact ⟨found, digits, spelled⟩
    · exact ⟨found, digits, spelled⟩

theorem spells_digits (n : Nat) : Spells (digits n) n :=
  ⟨digits n, .inl rfl, digits_ne_nil n, fun _ => isDigit_of_mem_digits, value_digits n⟩

/-! Integers. -/

/-- An integer as it is written: a natural number, or one behind a minus sign. -/
def integer? : List Char → Option Int
  | '-' :: digits => (natural? digits).map fun n => -(n : Int)
  | digits => (natural? digits).map fun n => (n : Int)

theorem integer?_signed (n : Int) : integer? (signed n) = some n := by
  cases n with
  | ofNat n =>
    obtain ⟨c, rest, shape, digit, -⟩ := digits_cases n
    have unsigned : c ≠ '-' := by
      rintro rfl
      exact absurd digit (by decide)
    unfold integer?
    split
    · rename_i same
      rw [signed, shape] at same
      exact absurd (List.cons.inj same).1 unsigned
    · rw [signed, natural?_digits]
      rfl
  | negSucc n =>
    rw [signed, integer?, natural?_digits]
    rfl

theorem signed_ne_nil (n : Int) : signed n ≠ [] := by
  cases n with
  | ofNat n => exact digits_ne_nil n
  | negSucc n => exact List.cons_ne_nil _ _

theorem not_mem_signed {c : Char} (other : c.isDigit = false) (minus : c ≠ '-') (n : Int) :
    c ∉ signed n := by
  intro member
  have digit : ∀ m, c ∉ digits m := fun m found => by
    rw [isDigit_of_mem_digits found] at other
    contradiction
  cases n with
  | ofNat n => exact digit n member
  | negSucc n =>
    rcases List.mem_cons.mp member with sign | found
    · exact minus sign
    · exact digit (n + 1) found

end DeviceMatrix.Decimal
