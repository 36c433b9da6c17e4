import Entitlement.Text.Utf8

/-!
Bytes that are written for a text read back as that text. Reading takes one byte at a time, so the
proof follows one character through the states of the reader: its first byte says how many bytes are
still missing and how small or great the next one may be.
-/

namespace Entitlement.Text

/-- A byte that leaves nothing of a character missing. -/
theorem step_last (low high value width byte : Nat) (c : Char)
    (inside : low ≤ byte ∧ byte ≤ high) (whole : value * 64 + (byte - 0x80) = c.toNat) :
    step (some ⟨1, low, high, value, width⟩) byte = ([.char c], none) := by
  rw [step, if_pos inside]
  dsimp only
  rw [if_pos (Nat.le_refl 1), whole, Char.ofNat_toNat]

theorem step_more (missing low high value width byte : Nat)
    (inside : low ≤ byte ∧ byte ≤ high) :
    step (some ⟨missing + 2, low, high, value, width⟩) byte =
      ([], some ⟨missing + 1, 0x80, 0xBF, value * 64 + (byte - 0x80), width + 1⟩) := by
  rw [step, if_pos inside]
  dsimp only
  rw [if_neg (by omega)]
  rfl

theorem step_lead (byte : Nat) (pending : Pending) (high : 0x80 ≤ byte)
    (leads : lead byte = some pending) : step none byte = ([], some pending) := by
  rw [step, begin, if_neg (by omega), leads]

/-- The bounds of the second byte of three: they keep out overlong forms and surrogates. -/
theorem lead_three (value : Nat) (least : 0x7FF < value) (greatest : value ≤ 0xFFFF)
    (valid : value < 0xD800 ∨ 0xDFFF < value) :
    ∃ low high, lead (value / 4096 + 224) = some ⟨0 + 2, low, high, value / 4096, 1⟩ ∧
      low ≤ value / 64 % 64 + 128 ∧ value / 64 % 64 + 128 ≤ high := by
  by_cases first : value / 4096 = 0
  · refine ⟨0xA0, 0xBF, ?_, by omega, by omega⟩
    rw [first]
    rfl
  · by_cases surrogate : value / 4096 = 13
    · refine ⟨0x80, 0x9F, ?_, by omega, by omega⟩
      rw [surrogate]
      rfl
    · refine ⟨0x80, 0xBF, ?_, by omega, by omega⟩
      rw [lead, if_neg (by omega), if_neg (by omega), if_neg (by omega), if_pos (by omega)]
      simp only [Nat.add_sub_cancel]

theorem lead_four (value : Nat) (least : 0xFFFF < value) (greatest : value < 0x110000) :
    ∃ low high, lead (value / 262144 + 240) = some ⟨1 + 2, low, high, value / 262144, 1⟩ ∧
      low ≤ value / 4096 % 64 + 128 ∧ value / 4096 % 64 + 128 ≤ high := by
  by_cases first : value / 262144 = 0
  · refine ⟨0x90, 0xBF, ?_, by omega, by omega⟩
    rw [first]
    rfl
  · by_cases last : value / 262144 = 4
    · refine ⟨0x80, 0x8F, ?_, by omega, by omega⟩
      rw [last]
      rfl
    · refine ⟨0x80, 0xBF, ?_, by omega, by omega⟩
      rw [lead, if_neg (by omega), if_neg (by omega), if_neg (by omega), if_neg (by omega),
        if_neg (by omega), if_pos (by omega)]
      simp only [Nat.add_sub_cancel]

-- A character

theorem char_bounds (c : Char) :
    c.toNat < 0x110000 ∧ (c.toNat < 0xD800 ∨ 0xDFFF < c.toNat) := by
  have valid : c.toNat < 0xD800 ∨ 0xDFFF < c.toNat ∧ c.toNat < 0x110000 := c.valid
  omega

theorem byte_toNat (value : Nat) (small : value < 256) : (UInt8.ofNat value).toNat = value := by
  rw [UInt8.toNat_ofNat']
  exact Nat.mod_eq_of_lt small

theorem piecesFrom_cons (state : Option Pending) (value : Nat) (small : value < 256)
    (rest : List UInt8) :
    piecesFrom state (UInt8.ofNat value :: rest) =
      (step state value).1 ++ piecesFrom (step state value).2 rest := by
  cases state <;> rw [piecesFrom, byte_toNat value small]

/-- The bytes of a character are read as that character, whatever follows them. -/
theorem pieces_char (c : Char) (rest : List UInt8) :
    piecesFrom none (String.utf8EncodeChar c ++ rest) = .char c :: piecesFrom none rest := by
  obtain ⟨greatest, valid⟩ := char_bounds c
  have value : c.val.toNat = c.toNat := rfl
  unfold String.utf8EncodeChar
  dsimp only
  rw [value]
  by_cases one : c.toNat ≤ 127
  · rw [if_pos one, List.singleton_append, piecesFrom_cons _ _ (by omega), step, begin,
      if_pos (by omega), Char.ofNat_toNat]
    rfl
  rw [if_neg one]
  by_cases two : c.toNat ≤ 2047
  · have leads : lead (c.toNat / 64 % 32 + 192) = some ⟨1, 0x80, 0xBF, c.toNat / 64, 1⟩ := by
      rw [lead, if_pos (by omega), Nat.add_sub_cancel, Nat.mod_eq_of_lt (by omega)]
    rw [if_pos two, List.cons_append, List.singleton_append, piecesFrom_cons _ _ (by omega),
      step_lead _ _ (by omega) leads, piecesFrom_cons _ _ (by omega),
      step_last _ _ _ _ _ c ⟨by omega, by omega⟩ (by omega)]
    rfl
  rw [if_neg two]
  by_cases three : c.toNat ≤ 65535
  · obtain ⟨low, high, leads, above, below⟩ :=
      lead_three c.toNat (by omega) (by omega) valid
    rw [if_pos three, List.cons_append, List.cons_append, List.singleton_append,
      piecesFrom_cons _ _ (by omega), show c.toNat / 4096 % 16 = c.toNat / 4096 by omega,
      step_lead _ _ (by omega) leads, piecesFrom_cons _ _ (by omega),
      step_more _ _ _ _ _ _ ⟨above, below⟩, piecesFrom_cons _ _ (by omega),
      step_last _ _ _ _ _ c ⟨by omega, by omega⟩ (by omega)]
    rfl
  · obtain ⟨low, high, leads, above, below⟩ := lead_four c.toNat (by omega) greatest
    rw [if_neg three, List.cons_append, List.cons_append, List.cons_append,
      List.singleton_append, piecesFrom_cons _ _ (by omega),
      show c.toNat / 262144 % 8 = c.toNat / 262144 by omega,
      step_lead _ _ (by omega) leads, piecesFrom_cons _ _ (by omega),
      step_more _ _ _ _ _ _ ⟨above, below⟩, piecesFrom_cons _ _ (by omega),
      step_more _ _ _ _ _ _ ⟨by omega, by omega⟩,
      piecesFrom_cons _ _ (by omega),
      step_last _ _ _ _ _ c ⟨by omega, by omega⟩ (by omega)]
    rfl

-- A text

def bytesOf (text : List Char) : List UInt8 := text.flatMap String.utf8EncodeChar

@[simp]
theorem bytesOf_cons (c : Char) (rest : List Char) :
    bytesOf (c :: rest) = String.utf8EncodeChar c ++ bytesOf rest :=
  List.flatMap_cons

theorem pieces_bytesOf (text : List Char) : pieces (bytesOf text) = text.map Piece.char := by
  unfold pieces
  induction text with
  | nil => rfl
  | cons c rest ih => rw [bytesOf_cons, pieces_char, ih, List.map_cons]

theorem pieces_bytes (text : String) : pieces (bytes text) = ofText text :=
  pieces_bytesOf text.toList

theorem repair_bytesOf (text : List Char) : repair (bytesOf text) = String.ofList text := by
  rw [repair, pieces_bytesOf, List.map_map]
  congr 1
  exact List.map_id text

end Entitlement.Text
