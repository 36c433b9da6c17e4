import Entitlement.Proofs.Utf8

/-!
Texts in the order of their characters are in the order of their bytes. A character is written as
its digits in base 64, the most significant ones in a first byte that also tells how many follow: a
longer form starts with a greater byte, and forms of one length compare digit by digit.
-/

namespace Entitlement.Text

theorem byte_lt (one other : Nat) (oneSmall : one < 256) (otherSmall : other < 256)
    (rest behind : List UInt8) :
    UInt8.ofNat one :: rest < UInt8.ofNat other :: behind ↔
      one < other ∨ one = other ∧ rest < behind := by
  rw [List.cons_lt_cons_iff, UInt8.lt_iff_toNat_lt, ← UInt8.toNat_inj, byte_toNat one oneSmall,
    byte_toNat other otherSmall]

/-- What a digit in base 64 counts that has so many digits behind it. -/
def placeValue : Nat → Nat
  | 0 => 1
  | count + 1 => placeValue count * 64

theorem placeValue_pos (count : Nat) : 0 < placeValue count := by
  induction count with
  | zero => exact Nat.one_pos
  | succ count ih => exact Nat.mul_pos ih (by omega)

/-- The last digits of a number in base 64, as the bytes that continue a character. -/
def lowDigits : Nat → Nat → List UInt8
  | 0, _ => []
  | count + 1, value =>
      UInt8.ofNat (value / placeValue count % 64 + 128) :: lowDigits count value

theorem lowDigits_lt (count one other : Nat)
    (less : one % placeValue count < other % placeValue count) (rest behind : List UInt8) :
    lowDigits count one ++ rest < lowDigits count other ++ behind := by
  induction count with
  | zero => simp only [placeValue, Nat.mod_one, Nat.lt_irrefl] at less
  | succ count ih =>
      rw [placeValue, Nat.mod_mul, Nat.mod_mul] at less
      rw [lowDigits, lowDigits, List.cons_append, List.cons_append,
        byte_lt _ _ (by omega) (by omega)]
      rcases Nat.lt_trichotomy (one / placeValue count % 64) (other / placeValue count % 64) with
        smaller | same | greater
      · exact Or.inl (by omega)
      · rw [same] at less ⊢
        exact Or.inr ⟨rfl, ih (Nat.lt_of_add_lt_add_right less)⟩
      · have step := Nat.mul_le_mul_left (placeValue count) greater
        have bound := Nat.mod_lt other (placeValue_pos count)
        rw [Nat.mul_succ] at step
        omega

def following (value : Nat) : Nat :=
  if value ≤ 0x7F then 0 else if value ≤ 0x7FF then 1 else if value ≤ 0xFFFF then 2 else 3

def lengthMark : Nat → Nat
  | 0 => 0
  | 1 => 192
  | 2 => 224
  | 3 => 240
  | _ => 248

def firstByte (value : Nat) : Nat :=
  value / placeValue (following value) + lengthMark (following value)

/-- The four forms of a character, by their greatest values. -/
theorem following_cases (value : Nat) :
    (following value = 0 ∧ value ≤ 0x7F) ∨
    (following value = 1 ∧ 0x7F < value ∧ value ≤ 0x7FF) ∨
    (following value = 2 ∧ 0x7FF < value ∧ value ≤ 0xFFFF) ∨
    (following value = 3 ∧ 0xFFFF < value) := by
  unfold following
  by_cases one : value ≤ 0x7F
  · exact Or.inl ⟨if_pos one, one⟩
  · by_cases two : value ≤ 0x7FF
    · exact Or.inr (Or.inl ⟨by rw [if_neg one, if_pos two], by omega, two⟩)
    · by_cases three : value ≤ 0xFFFF
      · exact Or.inr (Or.inr (Or.inl
          ⟨by rw [if_neg one, if_neg two, if_pos three], by omega, three⟩))
      · exact Or.inr (Or.inr (Or.inr
          ⟨by rw [if_neg one, if_neg two, if_neg three], by omega⟩))

theorem following_most (value : Nat) : following value ≤ 3 := by
  have form := following_cases value
  omega

theorem following_mono (one other : Nat) (order : one ≤ other) :
    following one ≤ following other := by
  have oneForm := following_cases one
  have otherForm := following_cases other
  omega

theorem encoded_form (c : Char) :
    String.utf8EncodeChar c =
      UInt8.ofNat (firstByte c.toNat) :: lowDigits (following c.toNat) c.toNat := by
  have value : c.val.toNat = c.toNat := rfl
  have greatest := (char_bounds c).1
  unfold String.utf8EncodeChar firstByte
  dsimp only
  rw [value]
  rcases following_cases c.toNat with ⟨form, high⟩ | ⟨form, low, high⟩ | ⟨form, low, high⟩ |
    ⟨form, low⟩
  · rw [form, if_pos high]
    simp [lowDigits, placeValue, lengthMark]
  · have whole : c.toNat / 64 % 32 = c.toNat / 64 := by omega
    rw [form, if_neg (by omega), if_pos high, whole]
    simp [lowDigits, placeValue, lengthMark]
  · have whole : c.toNat / 4096 % 16 = c.toNat / 4096 := by omega
    rw [form, if_neg (by omega), if_neg (by omega), if_pos high, whole]
    simp [lowDigits, placeValue, lengthMark]
  · have whole : c.toNat / 262144 % 8 = c.toNat / 262144 := by omega
    rw [form, if_neg (by omega), if_neg (by omega), if_neg (by omega), whole]
    simp [lowDigits, placeValue, lengthMark]

theorem firstByte_bounds (value : Nat) (greatest : value < 0x110000) :
    lengthMark (following value) ≤ firstByte value ∧
      firstByte value < lengthMark (following value + 1) := by
  unfold firstByte
  refine ⟨Nat.le_add_left _ _, ?_⟩
  rcases following_cases value with ⟨form, high⟩ | ⟨form, low, high⟩ | ⟨form, low, high⟩ |
    ⟨form, low⟩
  all_goals
    rw [form]
    simp only [placeValue, lengthMark]
    omega

theorem lengthMark_small (count : Nat) : lengthMark count ≤ 248 := by
  unfold lengthMark
  split <;> decide

theorem lengthMark_mono (fewer more : Nat) (less : fewer < more) (most : more ≤ 3) :
    lengthMark (fewer + 1) ≤ lengthMark more := by
  have forms : ∀ more ≤ 3, ∀ fewer < more, lengthMark (fewer + 1) ≤ lengthMark more := by decide
  exact forms more most fewer less

/-- Of two characters the earlier one has the smaller bytes, whatever follows each. -/
theorem encoded_lt (one other : Char) (before : one < other) (rest behind : List UInt8) :
    String.utf8EncodeChar one ++ rest < String.utf8EncodeChar other ++ behind := by
  have less : one.toNat < other.toNat := UInt32.lt_iff_toNat_lt.mp before
  obtain ⟨_, oneBelow⟩ := firstByte_bounds one.toNat (char_bounds one).1
  obtain ⟨otherAbove, otherBelow⟩ := firstByte_bounds other.toNat (char_bounds other).1
  have oneSmall := lengthMark_small (following one.toNat + 1)
  have otherSmall := lengthMark_small (following other.toNat + 1)
  rw [encoded_form, encoded_form, List.cons_append, List.cons_append,
    byte_lt _ _ (by omega) (by omega)]
  rcases Nat.lt_or_eq_of_le (following_mono one.toNat other.toNat (Nat.le_of_lt less)) with
    longer | same
  · have apart := lengthMark_mono (following one.toNat) (following other.toNat) longer
      (following_most other.toNat)
    exact Or.inl (by omega)
  · unfold firstByte
    rw [same]
    rcases Nat.lt_or_eq_of_le (Nat.div_le_div_right (c := placeValue (following other.toNat))
      (Nat.le_of_lt less)) with first | first
    · exact Or.inl (Nat.add_lt_add_right first _)
    · have split := Nat.div_add_mod one.toNat (placeValue (following other.toNat))
      have otherSplit := Nat.div_add_mod other.toNat (placeValue (following other.toNat))
      rw [first] at split ⊢
      exact Or.inr ⟨rfl, lowDigits_lt _ _ _ (by omega) rest behind⟩

/-- Texts are in the order of their bytes. -/
theorem bytesOf_lt (earlier later : List Char) (before : earlier < later) :
    bytesOf earlier < bytesOf later := by
  induction earlier generalizing later with
  | nil =>
      cases later with
      | nil => exact absurd before (List.lt_irrefl [])
      | cons c rest =>
          rw [bytesOf_cons, encoded_form]
          exact List.nil_lt_cons _ _
  | cons one rest ih =>
      cases later with
      | nil => exact absurd before (List.not_lt_nil _)
      | cons other behind =>
          rw [bytesOf_cons, bytesOf_cons]
          rcases List.cons_lt_cons_iff.mp before with first | ⟨rfl, follows⟩
          · exact encoded_lt one other first _ _
          · exact List.append_left_lt (ih behind follows)

theorem bytes_lt_iff (one other : String) : bytes one < bytes other ↔ one < other := by
  constructor
  · intro smaller
    rcases Std.lt_trichotomy one other with before | same | behind
    · exact before
    · rw [same] at smaller
      exact absurd smaller (List.lt_irrefl _)
    · have greater : bytes other < bytes one :=
        bytesOf_lt other.toList one.toList behind
      exact absurd smaller (List.lt_asymm greater)
  · intro before
    exact bytesOf_lt one.toList other.toList before

end Entitlement.Text
