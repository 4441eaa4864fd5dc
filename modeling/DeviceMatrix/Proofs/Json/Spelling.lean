import DeviceMatrix.Json.Printer
import DeviceMatrix.Json.Token
import DeviceMatrix.Proofs.Text.Decimal

/-! Texts, numbers and words as they are printed, read as tokens again. What follows a number must
not continue it: that is all a token asks of the text behind it. -/
namespace DeviceMatrix.Json

open Text (Symbol)

theorem ofText_append (s t : List Char) :
    Symbol.ofText (s ++ t) = Symbol.ofText s ++ Symbol.ofText t := by
  simp [Symbol.ofText]

theorem ofText_cons (c : Char) (s : List Char) :
    Symbol.ofText (c :: s) = .char c :: Symbol.ofText s := rfl

/-- What may follow a number without becoming a part of it. -/
def Closes : List Symbol → Prop
  | .char c :: _ => ¬c.isDigit ∧ c ≠ '.' ∧ c ≠ 'e' ∧ c ≠ 'E'
  | _ => True

/-! Numbers. -/

theorem spanDigits_ofText {digits : List Char} {rest : List Symbol}
    (all : ∀ c ∈ digits, c.isDigit) (closes : Closes rest) :
    spanDigits (Symbol.ofText digits ++ rest) = (digits, rest) := by
  induction digits with
  | nil =>
    cases rest with
    | nil => rfl
    | cons symbol rest =>
      cases symbol with
      | char c => simp [Symbol.ofText, spanDigits, closes.1]
      | stray bytes => rfl
  | cons c digits ih =>
    have digit := all c (by simp)
    have tail := ih fun d member => all d (by simp [member])
    rw [ofText_cons, List.cons_append, spanDigits, if_pos digit, tail]

namespace Numeral

def ofInt : Int → Numeral
  | .ofNat n => { negative := false, whole := Decimal.digits n }
  | .negSucc n => { negative := true, whole := Decimal.digits (n + 1) }

theorem someDigits_digits (n : Nat) {rest : List Symbol} (closes : Closes rest) :
    someDigits (Symbol.ofText (Decimal.digits n) ++ rest) = .ok (Decimal.digits n, rest) := by
  have span := spanDigits_ofText (fun _ => Decimal.isDigit_of_mem_digits (n := n)) closes
  simp [someDigits, span, Decimal.digits_ne_nil]

/-- A zero in front would be refused unless it stands alone. -/
theorem scanWhole_digits (n : Nat) {rest : List Symbol} (closes : Closes rest) :
    scanWhole (Symbol.ofText (Decimal.digits n) ++ rest) = .ok (Decimal.digits n, rest) := by
  obtain ⟨c, others, shape, -, zero⟩ := Decimal.digits_cases n
  unfold scanWhole
  rw [someDigits_digits n closes, shape]
  dsimp only [bind, Except.bind]
  split
  · rename_i leading
    obtain ⟨rfl, rfl⟩ := List.cons.inj leading
    exact absurd (zero rfl) (List.cons_ne_nil _ _)
  · rfl

theorem scanFraction_closes {rest : List Symbol} (closes : Closes rest) :
    scanFraction rest = .ok (none, rest) := by
  unfold scanFraction
  split
  · exact absurd rfl closes.2.1
  · rfl

theorem scanExponent_closes {rest : List Symbol} (closes : Closes rest) :
    scanExponent rest = .ok (none, rest) := by
  unfold scanExponent
  split
  · exact if_neg fun exponent => exponent.elim closes.2.2.1 closes.2.2.2
  · rfl

theorem scan_digits (negative : Bool) (n : Nat) {rest : List Symbol} (closes : Closes rest) :
    scan negative (Symbol.ofText (Decimal.digits n) ++ rest) =
      .ok ({ negative, whole := Decimal.digits n }, rest) := by
  simp [scan, scanWhole_digits n closes, scanFraction_closes closes, scanExponent_closes closes,
    bind, Except.bind, pure, Except.pure]

theorem number_ofInt {n : Int} (low : -(Decimal.maxInteger + 1 : Int) ≤ n)
    (high : n ≤ Decimal.maxWord) : (ofInt n).number = .integer n := by
  cases n with
  | ofNat n =>
    have fits : n ≤ Decimal.maxWord := by simpa using high
    simp [number, ofInt, fits]
  | negSucc n =>
    have fits : n + 1 ≤ Decimal.maxInteger + 1 := by
      rw [Int.negSucc_eq] at low
      omega
    simp [number, ofInt, fits, Int.negSucc_eq]

end Numeral

/-! Texts. -/

theorem hexValue?_hexDigit : ∀ d < 16, hexValue? (Text.hexDigit d) = some d := by decide

theorem fourHex_control {c : Char} (control : c < ' ') (rest : List Symbol) :
    fourHex (Symbol.ofText ['0', '0', Text.hexDigit (c.toNat / 16), Text.hexDigit (c.toNat % 16)] ++
      rest) = some (c.toNat, rest) := by
  have small : c.toNat < 32 := control
  have high := hexValue?_hexDigit (c.toNat / 16) (by omega)
  have low := hexValue?_hexDigit (c.toNat % 16) (by omega)
  have zero : hexValue? '0' = some 0 := by decide
  simp [Symbol.ofText, fourHex, high, low, zero]
  omega

theorem content?_unit {value : Nat} (small : value < 0xd800) (pieces : List Piece) :
    content? (.unit value :: pieces) = (content? pieces).map (Char.ofNat value :: ·) := by
  have leading : isLeading value = false := by simp [isLeading]; omega
  have trailing : isTrailing value = false := by simp [isTrailing]; omega
  cases pieces with
  | nil => simp [content?, leading, trailing]
  | cons piece pieces => cases piece <;> simp [content?, leading, trailing]

theorem scan_backslash {rest left : List Symbol} {piece : Piece}
    (escaped : scanEscape rest = .ok (piece, left)) :
    scan (.char '\\' :: rest) = (piece :: (scan left).1, (scan left).2) := by
  rw [scan, if_neg (by decide), if_pos rfl]
  split
  · rename_i failed
    rw [escaped] at failed
    contradiction
  · rename_i found
    rw [escaped] at found
    cases found
    rfl

theorem scan_plain {c : Char} (quote : c ≠ '"') (backslash : c ≠ '\\') (printable : ¬c < ' ')
    (rest : List Symbol) : scan (.char c :: rest) = (.char c :: (scan rest).1, (scan rest).2) := by
  rw [scan, if_neg quote, if_neg backslash, if_neg printable]

theorem scan_escape (c : Char) (rest : List Symbol) :
    ∃ piece, scan (Symbol.ofText (escape c) ++ rest) = (piece :: (scan rest).1, (scan rest).2) ∧
      ∀ pieces, content? (piece :: pieces) = (content? pieces).map (c :: ·) := by
  have letter (code meant : Char) (known : escapes.lookup code = some meant) (other : code ≠ 'u') :
      scan (.char '\\' :: .char code :: rest) = (.char meant :: (scan rest).1, (scan rest).2) :=
    scan_backslash (by rw [scanEscape, if_neg other, known])
  unfold escape
  split
  · exact ⟨.char '"', letter _ _ (by decide) (by decide), fun _ => rfl⟩
  · exact ⟨.char '\\', letter _ _ (by decide) (by decide), fun _ => rfl⟩
  · exact ⟨.char '\x08', letter _ _ (by decide) (by decide), fun _ => rfl⟩
  · exact ⟨.char '\t', letter _ _ (by decide) (by decide), fun _ => rfl⟩
  · exact ⟨.char '\n', letter _ _ (by decide) (by decide), fun _ => rfl⟩
  · exact ⟨.char '\x0c', letter _ _ (by decide) (by decide), fun _ => rfl⟩
  · exact ⟨.char '\r', letter _ _ (by decide) (by decide), fun _ => rfl⟩
  · rename_i quote backslash _ _ _ _ _
    split
    · rename_i control
      have small : c.toNat < 0xd800 := Nat.lt_trans (show c.toNat < 32 from control) (by decide)
      refine ⟨.unit c.toNat, scan_backslash ?_,
        fun pieces => by rw [content?_unit small, Char.ofNat_toNat]⟩
      show scanUnit (Symbol.ofText ['0', '0', _, _] ++ rest) = _
      rw [scanUnit, fourHex_control control]
    · rename_i printable
      exact ⟨.char c, scan_plain quote backslash printable rest, fun _ => rfl⟩

/-- A printed text, without its opening quote, is taken apart and joined to what it was. -/
theorem scan_escaped (content : List Char) (rest : List Symbol) :
    ∃ pieces, scan (Symbol.ofText (content.flatMap escape) ++ .char '"' :: rest) =
      (pieces, .ok rest) ∧ content? pieces = some content := by
  induction content with
  | nil => exact ⟨[], by simp [Symbol.ofText, scan], rfl⟩
  | cons c content ih =>
    obtain ⟨pieces, scanned, joined⟩ := ih
    obtain ⟨piece, taken, first⟩ :=
      scan_escape c (Symbol.ofText (content.flatMap escape) ++ .char '"' :: rest)
    refine ⟨piece :: pieces, ?_, ?_⟩
    · rw [List.flatMap_cons, ofText_append, List.append_assoc, taken, scanned]
    · rw [first, joined]
      rfl

/-! Tokens. -/

theorem tokens_char {c : Char} (mark : isSpace c = false) (rest : List Symbol) :
    tokens (.char c :: rest) = (Token.next c rest).1 :: tokens (Token.next c rest).2 := by
  rw [tokens, mark]
  rfl

theorem tokens_printText (content : String) (rest : List Symbol) :
    tokens (Symbol.ofText (printText content) ++ rest) =
      .text (some content) :: tokens rest := by
  obtain ⟨pieces, scanned, joined⟩ := scan_escaped content.toList rest
  have next : Token.next '"'
      (Symbol.ofText (content.toList.flatMap escape) ++ .char '"' :: rest) =
        (.text (some content), rest) := by
    show Token.quoted _ = _
    simp [Token.quoted, scanned, joined]
  have shape : Symbol.ofText (printText content) ++ rest =
      .char '"' :: (Symbol.ofText (content.toList.flatMap escape) ++ .char '"' :: rest) := by
    simp [printText, Symbol.ofText]
  rw [shape, tokens_char (by decide), next]

theorem tokens_word (value : Bool) (rest : List Symbol) :
    tokens (Symbol.ofText (word value) ++ rest) = .scalar (.flag value) :: tokens rest := by
  cases value <;> exact tokens_char (by decide) _

theorem tokens_null (rest : List Symbol) :
    tokens (Symbol.ofText ['n', 'u', 'l', 'l'] ++ rest) = .scalar .null :: tokens rest :=
  tokens_char (by decide) _

theorem next_digit {c : Char} (digit : c.isDigit) (rest : List Symbol) :
    Token.next c rest = Token.numeral false (.char c :: rest) := by
  unfold Token.next
  split <;> first | exact absurd digit (by decide) | exact if_pos digit

theorem isSpace_digit {c : Char} (digit : c.isDigit) : isSpace c = false := by
  simp only [isSpace, Bool.or_eq_false_iff, beq_eq_false_iff_ne]
  refine ⟨⟨⟨?_, ?_⟩, ?_⟩, ?_⟩ <;> rintro rfl <;> exact absurd digit (by decide)

theorem tokens_signed (n : Int) {rest : List Symbol} (closes : Closes rest) :
    tokens (Symbol.ofText (Decimal.signed n) ++ rest) =
      .scalar (.number (Numeral.ofInt n).number) :: tokens rest := by
  cases n with
  | ofNat n =>
    obtain ⟨c, others, shape, digit, -⟩ := Decimal.digits_cases n
    have scanned := Numeral.scan_digits false n closes
    rw [shape, ofText_cons, List.cons_append, ← shape] at scanned
    rw [Decimal.signed, shape, ofText_cons, List.cons_append, tokens_char (isSpace_digit digit),
      next_digit digit, Token.numeral, scanned]
    rfl
  | negSucc n =>
    have scanned := Numeral.scan_digits true (n + 1) closes
    have next : Token.next '-' (Symbol.ofText (Decimal.digits (n + 1)) ++ rest) =
        (.scalar (.number (Numeral.ofInt (.negSucc n)).number), rest) := by
      show Token.numeral true _ = _
      rw [Token.numeral, scanned]
      rfl
    rw [Decimal.signed, ofText_cons, List.cons_append, tokens_char (by decide), next]

end DeviceMatrix.Json
