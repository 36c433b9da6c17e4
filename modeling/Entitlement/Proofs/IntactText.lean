import Entitlement.Proofs.ByteOrder

/-!
Bytes without damage are those of the text that is read from them. A reader that waits for so many
bytes of a character takes as many low digits in base 64; the bounds of the first of them leave just
the numbers that are written in this form, so the bytes read are the ones written.
-/

namespace Entitlement.Text

/-- Reading is step by step for any bytes, not only for those of a text. -/
theorem piecesFrom_step (state : Option Pending) (byte : UInt8) (rest : List UInt8) :
    piecesFrom state (byte :: rest) =
      (step state byte.toNat).1 ++ piecesFrom (step state byte.toNat).2 rest := by
  cases state <;> rw [piecesFrom]

/-- A number of so many digits that starts as the first byte says, its next digit within the
bounds. -/
def Continues (missing low high value number : Nat) : Prop :=
  number / placeValue (missing + 1) = value ∧ low ≤ number / placeValue missing % 64 + 128 ∧
    number / placeValue missing % 64 + 128 ≤ high

/-- What is read as a character while bytes of it are missing: the last digits of its number. -/
theorem pending_char (missing low high value width : Nat) (c : Char) (rest : List Piece)
    (bytes : List UInt8) (bounds : 0x80 ≤ low ∧ high ≤ 0xBF)
    (read : piecesFrom (some ⟨missing + 1, low, high, value, width⟩) bytes = .char c :: rest) :
    ∃ number behind, bytes = lowDigits (missing + 1) number ++ behind ∧
      Continues missing low high value number ∧ c = Char.ofNat number ∧
        piecesFrom none behind = rest := by
  induction missing generalizing low high value width bytes with
  | zero =>
      cases bytes with
      | nil => simp [piecesFrom] at read
      | cons byte behind =>
          rw [piecesFrom_step] at read
          by_cases inside : low ≤ byte.toNat ∧ byte.toNat ≤ high
          · rw [step, if_pos inside] at read
            dsimp only at read
            rw [if_pos (Nat.le_refl 1), List.singleton_append, List.cons.injEq,
              Piece.char.injEq] at read
            obtain ⟨same, follows⟩ := read
            refine ⟨value * 64 + (byte.toNat - 0x80), behind, ?written, ?continues, same.symm,
              follows⟩
            case written =>
              rw [lowDigits, lowDigits, List.singleton_append, List.cons.injEq]
              refine ⟨?_, rfl⟩
              rw [← UInt8.toNat_inj, byte_toNat _ (by omega)]
              simp only [placeValue]
              omega
            case continues =>
              simp only [Continues, placeValue]
              omega
          · rw [step, if_neg inside] at read
            simp at read
  | succ missing ih =>
      cases bytes with
      | nil => simp [piecesFrom] at read
      | cons byte behind =>
          rw [piecesFrom_step] at read
          by_cases inside : low ≤ byte.toNat ∧ byte.toNat ≤ high
          · rw [step_more missing low high value width byte.toNat inside] at read
            obtain ⟨number, last, digits, ⟨front, _⟩, same, follows⟩ :=
              ih 0x80 0xBF _ _ behind ⟨by omega, by omega⟩ read
            have split : number / placeValue (missing + 1 + 1) =
                number / placeValue (missing + 1) / 64 := by
              rw [placeValue, Nat.div_div_eq_div_mul]
            refine ⟨number, last, ?written, ?continues, same, follows⟩
            case written =>
              rw [lowDigits, List.cons_append, digits, List.cons.injEq]
              refine ⟨?_, rfl⟩
              rw [← UInt8.toNat_inj, byte_toNat _ (by omega), front]
              omega
            case continues =>
              rw [Continues, split, front]
              omega
          · rw [step, if_neg inside] at read
            simp at read

theorem ofNat_valid (number : Nat)
    (valid : number < 0xD800 ∨ 0xDFFF < number ∧ number < 0x110000) :
    (Char.ofNat number).toNat = number := by
  rw [Char.ofNat, dif_pos valid]
  rfl

/-- The bounds that a first byte sets leave just the numbers that start with it. -/
theorem lead_form (byte : Nat) (pending : Pending) (leads : lead byte = some pending) :
    ∃ missing low high value, pending = ⟨missing + 1, low, high, value, 1⟩ ∧
      (0x80 ≤ low ∧ high ≤ 0xBF) ∧ value + lengthMark (missing + 1) = byte ∧
      ∀ number, Continues missing low high value number →
        following number = missing + 1 ∧
          (number < 0xD800 ∨ 0xDFFF < number ∧ number < 0x110000) := by
  unfold lead at leads
  repeat' split at leads
  all_goals cases leads
  · refine ⟨0, _, _, _, rfl, by omega, by simp only [lengthMark]; omega, ?_⟩
    intro number continues
    have form := following_cases number
    simp only [Continues, placeValue] at continues
    omega
  any_goals
    refine ⟨1, _, _, _, rfl, by omega, by simp only [lengthMark]; omega, ?_⟩
    intro number continues
    have form := following_cases number
    simp only [Continues, placeValue] at continues
    omega
  all_goals
    refine ⟨2, _, _, _, rfl, by omega, by simp only [lengthMark]; omega, ?_⟩
    intro number continues
    have form := following_cases number
    simp only [Continues, placeValue] at continues
    omega

/-- The bytes in front of a character that is read are its own. -/
theorem pieces_char_form (c : Char) (rest : List Piece) (bytes : List UInt8)
    (read : piecesFrom none bytes = .char c :: rest) :
    ∃ behind, bytes = String.utf8EncodeChar c ++ behind ∧ piecesFrom none behind = rest := by
  cases bytes with
  | nil => simp [piecesFrom] at read
  | cons byte behind =>
      rw [piecesFrom_step, step, begin] at read
      by_cases plain : byte.toNat < 0x80
      · rw [if_pos plain, List.singleton_append, List.cons.injEq, Piece.char.injEq] at read
        obtain ⟨same, follows⟩ := read
        have value : c.toNat = byte.toNat := by
          rw [← same]
          exact ofNat_valid byte.toNat (Or.inl (by omega))
        refine ⟨behind, ?_, follows⟩
        have form := following_cases c.toNat
        have none : following c.toNat = 0 := by omega
        rw [encoded_form, firstByte, none, value]
        simp [lowDigits, placeValue, lengthMark]
      · rw [if_neg plain] at read
        cases leads : lead byte.toNat with
        | none => simp [leads] at read
        | some pending =>
            obtain ⟨missing, low, high, value, rfl, bounds, starts, numbers⟩ := lead_form _ _ leads
            rw [leads, List.nil_append] at read
            obtain ⟨number, last, digits, continues, same, follows⟩ :=
              pending_char missing low high value 1 c rest behind bounds read
            obtain ⟨form, valid⟩ := numbers number continues
            have first : firstByte number = byte.toNat := by
              rw [firstByte, form, continues.1, starts]
            have whole : c.toNat = number := by
              rw [same]
              exact ofNat_valid number valid
            refine ⟨last, ?_, follows⟩
            rw [encoded_form, whole, form, first, UInt8.ofNat_toNat, List.cons_append, digits]

theorem step_shows (state : Option Pending) (byte : Nat) :
    (step state byte).1 ≠ [] ∨ (step state byte).2 ≠ none := by
  have starts : (begin byte).1 ≠ [] ∨ (begin byte).2 ≠ none := by
    unfold begin
    split
    · simp
    · split <;> simp
  cases state with
  | none => exact starts
  | some pending =>
      unfold step
      dsimp only
      split
      · split <;> simp
      · simp

/-- Bytes always show something, also where a character is cut off. -/
theorem piecesFrom_shows (state : Option Pending) (bytes : List UInt8)
    (some : state ≠ none ∨ bytes ≠ []) : piecesFrom state bytes ≠ [] := by
  induction bytes generalizing state with
  | nil =>
      cases state with
      | none => simp at some
      | some pending => simp [piecesFrom]
  | cons byte rest ih =>
      rw [piecesFrom_step]
      intro nothing
      obtain ⟨silent, after⟩ := List.append_eq_nil_iff.mp nothing
      rcases step_shows state byte.toNat with shown | waits
      · exact shown silent
      · exact ih _ (Or.inl waits) after

/-- Bytes that are read without damage are those of the text that is read. -/
theorem pieces_form (text : List Char) (bytes : List UInt8)
    (read : piecesFrom none bytes = text.map Piece.char) : bytes = bytesOf text := by
  induction text generalizing bytes with
  | nil =>
      cases bytes with
      | nil => rfl
      | cons byte behind =>
          exact absurd read (piecesFrom_shows none _ (Or.inr (List.cons_ne_nil byte behind)))
  | cons c rest ih =>
      obtain ⟨behind, rfl, follows⟩ := pieces_char_form c _ bytes read
      rw [bytesOf_cons, ih behind follows]

theorem undamaged_iff (read : List Piece) (text : List Char) :
    read.mapM undamaged? = some text ↔ read = text.map Piece.char := by
  induction read generalizing text with
  | nil => cases text <;> simp
  | cons piece rest ih =>
      cases piece with
      | damage width => cases text <;> simp [undamaged?]
      | char c =>
          cases text with
          | nil => simp [undamaged?, Option.bind_eq_some_iff]
          | cons first others =>
              rw [List.map_cons, List.cons.injEq, Piece.char.injEq, ← ih]
              simp only [List.mapM_cons, undamaged?, Option.bind_eq_bind, Option.bind_some,
                Option.bind_eq_some_iff, Option.pure_def, Option.some.injEq, List.cons.injEq]
              constructor
              · rintro ⟨tail, whole, rfl, rfl⟩
                exact ⟨rfl, whole⟩
              · rintro ⟨rfl, whole⟩
                exact ⟨others, whole, rfl, rfl⟩

/-- Bytes hold a text if and only if they are the ones that are written for it. -/
theorem intact_iff (written : List UInt8) (text : String) :
    intact? written = some text ↔ written = bytes text := by
  constructor
  · intro read
    obtain ⟨chars, whole, rfl⟩ := Option.map_eq_some_iff.mp read
    rw [bytes, String.toList_ofList]
    exact pieces_form chars written ((undamaged_iff _ _).mp whole)
  · rintro rfl
    rw [intact?, pieces_bytes, ofText, (undamaged_iff _ text.toList).mpr rfl, Option.map_some,
      String.ofList_toList]

end Entitlement.Text
