import DeviceMatrix.Proofs.Json.Returns

/-! The indented layout read back. A line break and the blanks that indent the next line are no
tokens, so a value has the same tokens however deep it stands, and the same as in the compact
layout. -/
namespace DeviceMatrix.Json

open Text (Symbol)

theorem tokens_space {c : Char} (space : isSpace c = true) (rest : List Symbol) :
    tokens (.char c :: rest) = tokens rest := by
  rw [tokens, if_pos space]

theorem tokens_newLine (depth : Nat) (rest : List Symbol) :
    tokens (Symbol.ofText (newLine depth) ++ rest) = tokens rest := by
  have blanks (n : Nat) : tokens (Symbol.ofText (List.replicate n ' ') ++ rest) = tokens rest := by
    induction n with
    | zero => rfl
    | succ n ih =>
      rw [List.replicate_succ, ofText_cons, List.cons_append, tokens_space (by decide), ih]
  rw [newLine, ofText_cons, List.cons_append, tokens_space (by decide), blanks]

theorem closes_newLine (depth : Nat) (rest : List Symbol) :
    Closes (Symbol.ofText (newLine depth) ++ rest) := by
  simp [newLine, Symbol.ofText, Closes]

theorem closes_layoutItems (depth outer : Nat) (items : List Value) (rest : List Symbol) :
    Closes
      (Symbol.ofText (layoutItems depth items) ++ (Symbol.ofText (newLine outer) ++ rest)) := by
  cases items with
  | nil => exact closes_newLine outer rest
  | cons item items => simp [layoutItems, Symbol.ofText, Closes]

theorem closes_layoutMembers (depth outer : Nat) (members : List (String × Value))
    (rest : List Symbol) :
    Closes (Symbol.ofText (layoutMembers depth members) ++
      (Symbol.ofText (newLine outer) ++ rest)) := by
  cases members with
  | nil => exact closes_newLine outer rest
  | cons member members => simp [layoutMembers, Symbol.ofText, Closes]

theorem tokens_spacedKey (key : String) (rest : List Symbol) :
    tokens (Symbol.ofText (printText key) ++ .char ':' :: .char ' ' :: rest) =
      .text (some key) :: .colon :: tokens rest := by
  rw [tokens_key, tokens_space (by decide)]

-- The cases are those of the layout; only the containers with something in them are indented.
mutual

theorem tokens_layout : ∀ (value : Value) (depth : Nat) {rest : List Symbol}, Closes rest →
    tokens (Symbol.ofText (layout depth value) ++ rest) = value.tokens ++ tokens rest
  | .null, _, rest, closes => tokens_print .null closes
  | .flag value, _, rest, closes => tokens_print (.flag value) closes
  | .integer value, _, rest, closes => tokens_print (.integer value) closes
  | .text content, _, rest, closes => tokens_print (.text content) closes
  | .array [], _, rest, closes => tokens_print (.array []) closes
  | .array (item :: items), depth, rest, _ => by
    have shape : Symbol.ofText (layout depth (.array (item :: items))) ++ rest = .char '[' ::
        (Symbol.ofText (newLine (depth + 1)) ++ (Symbol.ofText (layout (depth + 1) item) ++
          (Symbol.ofText (layoutItems (depth + 1) items) ++
            (Symbol.ofText (newLine depth) ++ .char ']' :: rest)))) := by
      simp [layout, Symbol.ofText]
    rw [shape, tokens_mark (by decide) rfl, tokens_newLine,
      tokens_layout item (depth + 1) (closes_layoutItems _ _ items _),
      tokens_layoutItems items (depth + 1) depth rest]
    simp [Value.tokens]
  | .object [], _, rest, closes => tokens_print (.object []) closes
  | .object ((key, value) :: members), depth, rest, _ => by
    have shape : Symbol.ofText (layout depth (.object ((key, value) :: members))) ++ rest =
        .char '\x7b' :: (Symbol.ofText (newLine (depth + 1)) ++ (Symbol.ofText (printText key) ++
          .char ':' :: .char ' ' :: (Symbol.ofText (layout (depth + 1) value) ++
            (Symbol.ofText (layoutMembers (depth + 1) members) ++
              (Symbol.ofText (newLine depth) ++ .char '\x7d' :: rest))))) := by
      simp [layout, Symbol.ofText]
    rw [shape, tokens_mark (by decide) rfl, tokens_newLine, tokens_spacedKey,
      tokens_layout value (depth + 1) (closes_layoutMembers _ _ members _),
      tokens_layoutMembers members (depth + 1) depth rest]
    simp [Value.tokens]

theorem tokens_layoutItems : ∀ (items : List Value) (depth outer : Nat) (rest : List Symbol),
    tokens (Symbol.ofText (layoutItems depth items) ++
      (Symbol.ofText (newLine outer) ++ .char ']' :: rest)) = Value.itemTokens items ++ tokens rest
  | [], _, outer, rest => by
    show tokens (Symbol.ofText (newLine outer) ++ .char ']' :: rest) = _
    rw [tokens_newLine, tokens_mark (by decide) rfl]
    rfl
  | item :: items, depth, outer, rest => by
    have shape : Symbol.ofText (layoutItems depth (item :: items)) ++
        (Symbol.ofText (newLine outer) ++ .char ']' :: rest) = .char ',' ::
          (Symbol.ofText (newLine depth) ++ (Symbol.ofText (layout depth item) ++
            (Symbol.ofText (layoutItems depth items) ++
              (Symbol.ofText (newLine outer) ++ .char ']' :: rest)))) := by
      simp [layoutItems, Symbol.ofText]
    rw [shape, tokens_mark (by decide) rfl, tokens_newLine,
      tokens_layout item depth (closes_layoutItems _ _ items _),
      tokens_layoutItems items depth outer rest]
    simp [Value.itemTokens]

theorem tokens_layoutMembers : ∀ (members : List (String × Value)) (depth outer : Nat)
    (rest : List Symbol),
    tokens (Symbol.ofText (layoutMembers depth members) ++
      (Symbol.ofText (newLine outer) ++ .char '\x7d' :: rest)) =
        Value.memberTokens members ++ tokens rest
  | [], _, outer, rest => by
    show tokens (Symbol.ofText (newLine outer) ++ .char '\x7d' :: rest) = _
    rw [tokens_newLine, tokens_mark (by decide) rfl]
    rfl
  | (key, value) :: members, depth, outer, rest => by
    have shape : Symbol.ofText (layoutMembers depth ((key, value) :: members)) ++
        (Symbol.ofText (newLine outer) ++ .char '\x7d' :: rest) = .char ',' ::
          (Symbol.ofText (newLine depth) ++ (Symbol.ofText (printText key) ++
            .char ':' :: .char ' ' :: (Symbol.ofText (layout depth value) ++
              (Symbol.ofText (layoutMembers depth members) ++
                (Symbol.ofText (newLine outer) ++ .char '\x7d' :: rest))))) := by
      simp [layoutMembers, Symbol.ofText]
    rw [shape, tokens_mark (by decide) rfl, tokens_newLine, tokens_spacedKey,
      tokens_layout value depth (closes_layoutMembers _ _ members _),
      tokens_layoutMembers members depth outer rest]
    simp [Value.memberTokens]

end

theorem read_layout (value : Value) :
    read (Symbol.ofText (layout 0 value)) = ⟨value.source, false⟩ := by
  apply read_of_tokens
  exact tokens_layout value 0 (show Closes [] from trivial)

theorem Codec.readText_pretty {α : Type} {codec : Codec α} {content result : α}
    (back : codec.Returns content result) :
    codec.readText (Symbol.ofString (codec.write content).pretty) = .ok result := by
  apply readText_of_read _ back
  rw [Symbol.ofString, Value.pretty, String.toList_ofList]
  exact read_layout _

end DeviceMatrix.Json
