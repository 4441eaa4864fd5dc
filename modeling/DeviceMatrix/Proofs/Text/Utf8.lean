import DeviceMatrix.Text.Utf8
import Mathlib.Tactic.IntervalCases

/-! Text read back from its bytes. The bytes of a character are a first byte that says how many
more are owed, and as many that continue it; the reader takes exactly these and is then between
two characters again. So what is read from the bytes of a text is the text, without stray bytes. -/
namespace DeviceMatrix.Text

theorem loop_toList (bytes : ByteArray) (i : Nat) (done : List UInt8) :
    ByteArray.toList.loop bytes i done = done.reverse ++ bytes.data.toList.drop i := by
  fun_induction ByteArray.toList.loop bytes i done with
  | case1 i done inside ih =>
    have inside : i < bytes.data.toList.length := inside
    rw [ih, List.drop_eq_getElem_cons inside]
    simp [ByteArray.get!, getElem!_pos bytes.data i inside]
  | case2 i done outside =>
    have outside : bytes.data.toList.length ≤ i := Nat.le_of_not_lt outside
    rw [List.drop_eq_nil_of_le outside, List.append_nil]

theorem encode_eq_flatMap (s : String) : encode s = s.toList.flatMap String.utf8EncodeChar := by
  have whole : s.toByteArray = (s.toList.flatMap String.utf8EncodeChar).toByteArray := by
    have spelled := String.toByteArray_ofList (l := s.toList)
    rwa [String.ofList_toList] at spelled
  rw [encode, String.toUTF8_eq_toByteArray, whole, ByteArray.toList, loop_toList,
    List.data_toByteArray]
  simp

/-! The bytes of one character, one by one. -/

theorem decodeFrom_ascii {b : UInt8} (low : b < 0x80) (rest : List UInt8) :
    decodeFrom none (b :: rest) = .char (Char.ofNat b.toNat) :: decodeFrom none rest := by
  simp [decodeFrom, advance, begin, low]

theorem decodeFrom_lead {b : UInt8} {p : Pending} (high : ¬b < 0x80)
    (lead : Pending.lead b = some p) (rest : List UInt8) :
    decodeFrom none (b :: rest) = decodeFrom (some p) rest := by
  simp [decodeFrom, advance, begin, high, lead]

/-- The byte that continues a character with the last six bits of `n`. -/
def tail (n : Nat) : UInt8 := UInt8.ofNat (n % 64 + 0x80)

theorem toNat_tail (n : Nat) : (tail n).toNat = n % 64 + 0x80 := by
  rw [tail, UInt8.toNat_ofNat']
  omega

theorem tail_between {low high n : Nat} (above : low ≤ n % 64) (below : n % 64 ≤ high)
    (small : high < 64) :
    UInt8.ofNat (low + 0x80) ≤ tail n ∧ tail n ≤ UInt8.ofNat (high + 0x80) := by
  rw [UInt8.le_iff_toNat_le, UInt8.le_iff_toNat_le, toNat_tail, UInt8.toNat_ofNat',
    UInt8.toNat_ofNat']
  omega

theorem tail_inside (n : Nat) : (0x80 : UInt8) ≤ tail n ∧ tail n ≤ 0xbf := by
  have below : n % 64 ≤ 63 := Nat.le_of_lt_succ (Nat.mod_lt n (by decide))
  exact tail_between (Nat.zero_le _) below (by decide)

variable {bytes : List UInt8} {point owed n : Nat} {low high : UInt8}

theorem decodeFrom_more (inside : low ≤ tail n ∧ tail n ≤ high) (rest : List UInt8) :
    decodeFrom (some ⟨bytes, point, owed + 2, low, high⟩) (tail n :: rest) =
      decodeFrom (some ⟨bytes ++ [tail n], point * 64 + n % 64, owed + 1, 0x80, 0xbf⟩) rest := by
  simp [decodeFrom, advance, inside, toNat_tail]

theorem decodeFrom_last (inside : low ≤ tail n ∧ tail n ≤ high) (rest : List UInt8) :
    decodeFrom (some ⟨bytes, point, 1, low, high⟩) (tail n :: rest) =
      .char (Char.ofNat (point * 64 + n % 64)) :: decodeFrom none rest := by
  simp [decodeFrom, advance, inside, toNat_tail]

/-! First bytes. The second byte of a character has a range of its own where a shorter spelling,
a surrogate or a number beyond the last character would follow. -/

theorem lead_two {k : Nat} (low : 2 ≤ k) (high : k < 32) :
    Pending.lead (UInt8.ofNat (k + 0xc0)) =
      some ⟨[UInt8.ofNat (k + 0xc0)], k, 1, 0x80, 0xbf⟩ := by
  interval_cases k <;> rfl

theorem lead_three {k n : Nat} (small : k < 16) (long : k = 0 → 32 ≤ n % 64)
    (scalar : k = 13 → n % 64 ≤ 31) :
    ∃ low high, Pending.lead (UInt8.ofNat (k + 0xe0)) =
        some ⟨[UInt8.ofNat (k + 0xe0)], k, 2, low, high⟩ ∧ low ≤ tail n ∧ tail n ≤ high := by
  have below : n % 64 ≤ 63 := Nat.le_of_lt_succ (Nat.mod_lt n (by decide))
  by_cases first : k = 0
  · subst first
    exact ⟨0xa0, 0xbf, rfl, tail_between (long rfl) below (by decide)⟩
  by_cases surrogates : k = 13
  · subst surrogates
    exact ⟨0x80, 0x9f, rfl, tail_between (Nat.zero_le _) (scalar rfl) (by decide)⟩
  · refine ⟨0x80, 0xbf, ?_, tail_inside n⟩
    interval_cases k <;> first | rfl | contradiction

theorem lead_four {k n : Nat} (small : k < 5) (long : k = 0 → 16 ≤ n % 64)
    (scalar : k = 4 → n % 64 ≤ 15) :
    ∃ low high, Pending.lead (UInt8.ofNat (k + 0xf0)) =
        some ⟨[UInt8.ofNat (k + 0xf0)], k, 3, low, high⟩ ∧ low ≤ tail n ∧ tail n ≤ high := by
  have below : n % 64 ≤ 63 := Nat.le_of_lt_succ (Nat.mod_lt n (by decide))
  by_cases first : k = 0
  · subst first
    exact ⟨0x90, 0xbf, rfl, tail_between (long rfl) below (by decide)⟩
  by_cases last : k = 4
  · subst last
    exact ⟨0x80, 0x8f, rfl, tail_between (Nat.zero_le _) (scalar rfl) (by decide)⟩
  · refine ⟨0x80, 0xbf, ?_, tail_inside n⟩
    interval_cases k <;> first | rfl | contradiction

theorem not_ascii {n : Nat} (low : 0x80 ≤ n) (high : n < 256) : ¬UInt8.ofNat n < 0x80 := by
  rw [UInt8.lt_iff_toNat_lt, UInt8.toNat_ofNat']
  show ¬n % 256 < 128
  omega

theorem decodeFrom_encodeChar (c : Char) (rest : List UInt8) :
    decodeFrom none (String.utf8EncodeChar c ++ rest) = .char c :: decodeFrom none rest := by
  have whole : Char.ofNat c.val.toNat = c := Char.ofNat_toNat c
  have scalar : c.val.toNat < 0xd800 ∨ 0xdfff < c.val.toNat ∧ c.val.toNat < 0x110000 := c.valid
  unfold String.utf8EncodeChar
  generalize c.val.toNat = v at whole scalar
  simp only
  split
  · next small =>
    have byte : (UInt8.ofNat v).toNat = v := by
      rw [UInt8.toNat_ofNat']
      omega
    have ascii : UInt8.ofNat v < 0x80 := by
      rw [UInt8.lt_iff_toNat_lt, byte]
      exact Nat.lt_succ_of_le small
    rw [List.singleton_append, decodeFrom_ascii ascii, byte, whole]
  split
  · next above small =>
    have lead := lead_two (k := v / 64 % 32) (by omega) (by omega)
    have point : v / 64 % 32 * 64 + v % 64 = v := by omega
    simp only [List.cons_append, List.nil_append]
    rw [decodeFrom_lead (not_ascii (by omega) (by omega)) lead, ← tail,
      decodeFrom_last (tail_inside v), point, whole]
  split
  · next above small =>
    obtain ⟨low, high, lead, inside⟩ := lead_three (k := v / 4096 % 16) (n := v / 64) (by omega)
      (by omega) (by omega)
    have point : (v / 4096 % 16 * 64 + v / 64 % 64) * 64 + v % 64 = v := by omega
    simp only [List.cons_append, List.nil_append]
    rw [decodeFrom_lead (not_ascii (by omega) (by omega)) lead, ← tail,
      decodeFrom_more inside, ← tail, decodeFrom_last (tail_inside v), point, whole]
  · next above =>
    obtain ⟨low, high, lead, inside⟩ := lead_four (k := v / 262144 % 8) (n := v / 4096) (by omega)
      (by omega) (by omega)
    have point : ((v / 262144 % 8 * 64 + v / 4096 % 64) * 64 + v / 64 % 64) * 64 + v % 64 = v := by
      omega
    simp only [List.cons_append, List.nil_append]
    rw [decodeFrom_lead (not_ascii (by omega) (by omega)) lead, ← tail,
      decodeFrom_more inside, ← tail, decodeFrom_more (tail_inside _), ← tail,
      decodeFrom_last (tail_inside v), point, whole]

/-- A text comes back from its bytes. -/
theorem decode_encode (s : String) : decode (encode s) = Symbol.ofString s := by
  rw [decode, encode_eq_flatMap, Symbol.ofString]
  induction s.toList with
  | nil => rfl
  | cons c rest ih =>
    rw [List.flatMap_cons, decodeFrom_encodeChar, ih]
    rfl

theorem text?_ofString (s : String) : Symbol.text? (Symbol.ofString s) = some s.toList := by
  unfold Symbol.ofString Symbol.ofText Symbol.text?
  induction s.toList with
  | nil => rfl
  | cons c rest ih => simp [List.mapM_cons, ih]

end DeviceMatrix.Text
