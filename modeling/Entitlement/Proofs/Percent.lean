import Mathlib.Data.List.Basic
import Entitlement.Proofs.Utf8
import Entitlement.Text.Percent

/-!
Percent forms read back. A part of a URL that encodes its percent signs is read as exactly the text
that was written. A part that keeps them is read as the text itself would be: it comes back
unchanged if and only if no percent sign in it stands before two hexadecimal digits.
-/

namespace Entitlement.Text

theorem encoded_filled (c : Char) : 1 ≤ (String.utf8EncodeChar c).length := by
  unfold String.utf8EncodeChar
  dsimp only
  split
  · simp
  · split
    · simp
    · split <;> simp

/-- Characters that are left out are missed: with as many bytes it is the same text. -/
theorem bytesOf_sublist (part whole : List Char) (inside : part.Sublist whole) :
    (bytesOf part).length ≤ (bytesOf whole).length ∧
      ((bytesOf part).length = (bytesOf whole).length → part = whole) := by
  induction inside with
  | slnil => exact ⟨Nat.le_refl _, fun _ => rfl⟩
  | cons c _ ih =>
      have filled := encoded_filled c
      rw [bytesOf_cons, List.length_append]
      refine ⟨by omega, fun same => ?_⟩
      omega
  | cons_cons c _ ih =>
      rw [bytesOf_cons, bytesOf_cons, List.length_append, List.length_append]
      refine ⟨by omega, fun same => ?_⟩
      rw [ih.2 (by omega)]

theorem bytesOf_inj (one other : List Char) (same : bytesOf one = bytesOf other) : one = other := by
  have pieces := congrArg pieces same
  rw [pieces_bytesOf, pieces_bytesOf] at pieces
  exact List.map_injective_iff.mpr (fun _ _ => Piece.char.inj) pieces

-- Hexadecimal digits

theorem hexValue_upper (value : Nat) (digit : value < 16) :
    hexValue? (upperHex value) = some value := by
  have each : ∀ digit < 16, hexValue? (upperHex digit) = some digit := by decide
  exact each value digit

theorem hexByte_some (high low : Char) (byte : UInt8) (found : hexByte? high low = some byte) :
    (hexValue? high).isSome = true ∧ (hexValue? low).isSome = true := by
  unfold hexByte? at found
  cases first : hexValue? high with
  | none => simp [first] at found
  | some value =>
      cases second : hexValue? low with
      | none => simp [first, second] at found
      | some other => exact ⟨rfl, rfl⟩

theorem percent_no_digit : hexValue? '%' = none := by decide

theorem hexByte_upper (byte : UInt8) :
    hexByte? (upperHex (byte.toNat / 16)) (upperHex (byte.toNat % 16)) = some byte := by
  have small : byte.toNat < 256 := byte.toNat_lt
  have whole : byte.toNat / 16 * 16 + byte.toNat % 16 = byte.toNat := by omega
  unfold hexByte?
  rw [hexValue_upper _ (by omega), hexValue_upper _ (by omega)]
  dsimp only [Option.bind_eq_bind, Option.bind_some, pure]
  rw [whole, UInt8.ofNat_toNat]

-- One step of decoding

theorem decode_other (c : Char) (rest : List Char) (other : c ≠ '%') :
    percentDecode (c :: rest) = String.utf8EncodeChar c ++ percentDecode rest := by
  rw [percentDecode]
  rintro high low rest rfl
  exact absurd rfl other

theorem decode_percent (rest : List Char)
    (loose : ∀ high low after, rest = high :: low :: after → hexByte? high low = none) :
    percentDecode ('%' :: rest) = String.utf8EncodeChar '%' ++ percentDecode rest := by
  match rest with
  | [] => rfl
  | [_] => rfl
  | high :: low :: after => rw [percentDecode, loose high low after rfl]

theorem decode_escape (high low : Char) (rest : List Char) (byte : UInt8)
    (found : hexByte? high low = some byte) :
    percentDecode ('%' :: high :: low :: rest) = byte :: percentDecode rest := by
  rw [percentDecode, found]

theorem decode_byte (byte : UInt8) (rest : List Char) :
    percentDecode (percentByte byte.toNat ++ rest) = byte :: percentDecode rest :=
  decode_escape _ _ rest byte (hexByte_upper byte)

theorem decode_bytes (bytes : List UInt8) (rest : List Char) :
    percentDecode (bytes.flatMap (fun byte => percentByte byte.toNat) ++ rest) =
      bytes ++ percentDecode rest := by
  induction bytes with
  | nil => rfl
  | cons byte bytes ih =>
      rw [List.flatMap_cons, List.append_assoc, decode_byte, ih, List.cons_append]

-- Parts that encode their percent signs

theorem decode_percentChar (isKept : Char → Bool) (strict : isKept '%' = false) (c : Char)
    (rest : List Char) :
    percentDecode (percentChar isKept c ++ rest) =
      String.utf8EncodeChar c ++ percentDecode rest := by
  unfold percentChar
  split
  · next kept =>
      apply decode_other
      rintro rfl
      rw [strict] at kept
      cases kept
  · exact decode_bytes _ rest

-- Parts that keep them

/-- No percent sign stands before two hexadecimal digits. -/
def EscapeFree (text : List Char) : Prop :=
  ∀ before high low after, text = before ++ '%' :: high :: low :: after →
    hexByte? high low = none

theorem escapeFree_cons (c : Char) (rest : List Char) :
    EscapeFree (c :: rest) ↔
      (c = '%' → ∀ high low after, rest = high :: low :: after → hexByte? high low = none) ∧
        EscapeFree rest := by
  constructor
  · intro free
    constructor
    · rintro rfl high low after rfl
      exact free [] high low after rfl
    · rintro before high low after rfl
      exact free (c :: before) high low after rfl
  · rintro ⟨first, later⟩ before high low after same
    cases before with
    | nil =>
        cases same
        exact first rfl high low after rfl
    | cons d before =>
        cases same
        exact later before high low after rfl

section Keeping

variable {isKept : Char → Bool} (keepsPercent : isKept '%' = true)
  (keepsDigits : ∀ c, (hexValue? c).isSome = true → isKept c = true)

theorem percentChar_kept (c : Char) (kept : isKept c = true) : percentChar isKept c = [c] := by
  rw [percentChar, if_pos kept]

theorem percentEncode_kept (isKept : Char → Bool) (text : List Char)
    (kept : ∀ c ∈ text, isKept c = true) : percentEncode isKept text = text := by
  induction text with
  | nil => rfl
  | cons c rest ih =>
      have tail := ih fun d present => kept d (List.mem_cons_of_mem c present)
      unfold percentEncode at tail ⊢
      rw [List.flatMap_cons, percentChar_kept c (kept c List.mem_cons_self), tail]
      rfl

theorem percentChar_encoded (c : Char) (encoded : isKept c = false) :
    ∃ more, percentChar isKept c = '%' :: more := by
  rw [percentChar, if_neg (by simp [encoded])]
  cases bytes : String.utf8EncodeChar c with
  | nil =>
      have filled := encoded_filled c
      rw [bytes] at filled
      simp at filled
  | cons byte rest => exact ⟨_, rfl⟩

/-- A digit at the start of an encoded text is the first character of the text itself. -/
theorem encoded_digit (text : List Char) (digit : Char) (more : List Char)
    (isDigit : (hexValue? digit).isSome = true)
    (same : percentEncode isKept text = digit :: more) :
    ∃ rest, text = digit :: rest ∧ more = percentEncode isKept rest := by
  unfold percentEncode at same
  cases text with
  | nil => cases same
  | cons c rest =>
      rw [List.flatMap_cons] at same
      cases kept : isKept c with
      | true =>
          rw [percentChar_kept c kept] at same
          cases same
          exact ⟨rest, rfl, rfl⟩
      | false =>
          obtain ⟨bytes, written⟩ := percentChar_encoded c kept
          rw [written] at same
          cases same
          rw [percent_no_digit] at isDigit
          cases isDigit

theorem encoded_escape (text : List Char) (high low : Char) (more : List Char) (byte : UInt8)
    (found : hexByte? high low = some byte)
    (same : percentEncode isKept text = high :: low :: more) :
    ∃ rest, text = high :: low :: rest := by
  obtain ⟨isHigh, isLow⟩ := hexByte_some high low byte found
  obtain ⟨middle, rfl, tail⟩ := encoded_digit text high _ isHigh same
  obtain ⟨rest, rfl, _⟩ := encoded_digit middle low more isLow tail.symm
  exact ⟨rest, rfl⟩

include keepsPercent keepsDigits in
/-- Encoding does not change what a text is read as, if it keeps percent signs and digits. -/
theorem decode_keeping (text : List Char) :
    percentDecode (percentEncode isKept text) = percentDecode text := by
  fun_induction percentDecode text with
  | case1 high low rest byte found ih =>
      obtain ⟨isHigh, isLow⟩ := hexByte_some high low byte found
      have written : percentEncode isKept ('%' :: high :: low :: rest) =
          '%' :: high :: low :: percentEncode isKept rest := by
        simp [percentEncode, percentChar, keepsPercent, keepsDigits high isHigh,
          keepsDigits low isLow]
      rw [written, decode_escape high low _ byte found, ih]
  | case2 high low rest found ih =>
      have written : percentEncode isKept ('%' :: high :: low :: rest) =
          '%' :: percentEncode isKept (high :: low :: rest) := by
        simp [percentEncode, percentChar, keepsPercent]
      rw [written, decode_percent, ih]
      intro first second after same
      cases escape : hexByte? first second with
      | none => rfl
      | some byte =>
          obtain ⟨_, starts⟩ := encoded_escape _ first second after byte escape same
          cases starts
          rw [found] at escape
          cases escape
  | case3 c rest loose ih =>
      have written : percentEncode isKept (c :: rest) =
          percentChar isKept c ++ percentEncode isKept rest := List.flatMap_cons
      rw [written]
      by_cases percent : c = '%'
      · subst percent
        rw [percentChar_kept '%' keepsPercent, List.singleton_append, decode_percent, ih]
        intro first second after same
        cases escape : hexByte? first second with
        | none => rfl
        | some byte =>
            obtain ⟨more, starts⟩ := encoded_escape rest first second after byte escape same
            exact absurd starts (loose first second more rfl)
      · cases kept : isKept c with
        | true => rw [percentChar_kept c kept, List.singleton_append, decode_other c _ percent, ih]
        | false =>
            rw [percentChar, if_neg (by simp [kept]), decode_bytes, ih]
  | case4 => rfl

end Keeping

/-- A text is never longer once it is read, and it is as long only without escapes. -/
theorem decode_length (text : List Char) :
    (percentDecode text).length ≤ (bytesOf text).length ∧
      ((percentDecode text).length = (bytesOf text).length → EscapeFree text) := by
  fun_induction percentDecode text with
  | case1 high low rest byte found ih =>
      have first := encoded_filled high
      have second := encoded_filled low
      have mark := encoded_filled '%'
      simp only [bytesOf_cons, List.length_append, List.length_cons]
      constructor
      · omega
      · intro same
        omega
  | case2 high low rest found ih =>
      simp only [bytesOf_cons, List.length_append] at ih ⊢
      constructor
      · omega
      · intro same
        apply (escapeFree_cons _ _).mpr
        refine ⟨?_, ih.2 (by omega)⟩
        rintro _ _ _ _ ⟨rfl, rfl, rfl⟩
        exact found
  | case3 c rest loose ih =>
      simp only [bytesOf_cons, List.length_append]
      constructor
      · omega
      · intro same
        apply (escapeFree_cons _ _).mpr
        refine ⟨?_, ih.2 (by omega)⟩
        rintro rfl high low after rfl
        exact absurd rfl (loose high low after rfl)
  | case4 =>
      refine ⟨Nat.le_refl _, fun _ before high low after same => ?_⟩
      cases before <;> cases same

theorem decode_free (text : List Char) (free : EscapeFree text) :
    percentDecode text = bytesOf text := by
  induction text with
  | nil => rfl
  | cons c rest ih =>
      obtain ⟨first, later⟩ := (escapeFree_cons c rest).mp free
      rw [bytesOf_cons, ← ih later]
      by_cases percent : c = '%'
      · subst percent
        exact decode_percent rest (first rfl)
      · exact decode_other c rest percent

/-- A text reads as itself if and only if it has no escapes. -/
theorem decode_same_iff (text : List Char) :
    percentDecode text = bytesOf text ↔ EscapeFree text := by
  constructor
  · intro same
    exact (decode_length text).2 (congrArg List.length same)
  · exact decode_free text

end Entitlement.Text
