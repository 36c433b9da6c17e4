import Entitlement.Proofs.FormEncoding
import Entitlement.Proofs.Results
import Entitlement.Url.Read

/-!
What a host is written with. A domain name is folded and then refused if it holds a delimiter, and
Punycode adds only letters, digits and hyphens: the characters of ASCII in a label are those that
its written form holds. So neither a domain nor a numeric address holds a delimiter.
-/

namespace Entitlement

open Text

-- Punycode

namespace Punycode

theorem character_beyond (code : Nat) (c : Char) (beyond : 128 ≤ code)
    (found : character? code = some c) : isBasic c = false := by
  unfold character? at found
  split at found
  · next valid =>
      cases found
      have same : (Char.ofNat code).toNat = code := by
        rw [Char.ofNat, dif_pos valid]
        rfl
      simp [isBasic, same, beyond]
  · cases found

/-- Every character that is inserted is beyond ASCII. -/
theorem decodeFrom_basic (code index bias : Nat) (label text found : List Char)
    (beyond : 128 ≤ code) (read : decodeFrom code index bias label text = some found) :
    ∀ c ∈ found, isBasic c = true → c ∈ label := by
  fun_induction decodeFrom code index bias label text with
  | case1 code index bias label text done =>
      cases read
      exact fun c present _ => present
  | case2 => cases read
  | case3 => cases read
  | case4 code index bias label text more reached rest distance count next inserted char ih =>
      intro c present basic
      have inside := ih (Nat.le_trans beyond (Nat.le_add_right _ _)) read c present basic
      rw [insertAt] at inside
      rcases List.mem_append.mp inside with front | later
      · exact List.mem_of_mem_take front
      · rcases List.mem_cons.mp later with rfl | behind
        · have other := character_beyond _ c (Nat.le_trans beyond (Nat.le_add_right _ _)) char
          rw [basic] at other
          cases other
        · exact List.mem_of_mem_drop behind

/-- The characters of ASCII in a label stand in the text that it is read from. -/
theorem decode_basic (text label : List Char) (read : decode? text = some label) :
    ∀ c ∈ label, isBasic c = true → c ∈ text := by
  intro c present basic
  rw [decode?] at read
  have front : ∀ c ∈ (basicPart text).1, c ∈ text := by
    rw [basicPart]
    split
    · exact fun _ nothing => absurd nothing List.not_mem_nil
    · exact fun _ inside => List.mem_of_mem_take inside
  generalize basicPart text = parts at read front
  dsimp only at read
  split at read
  · exact front c (decodeFrom_basic 128 0 72 _ _ label (Nat.le_refl _) read c present basic)
  · cases read

def AreDigits (text : List Char) : Prop := ∀ c ∈ text, ∃ value < 36, c = digitChar value

theorem noDigits : AreDigits [] := by simp [AreDigits]

theorem writeDistance_digits (bias position value : Nat) :
    AreDigits (writeDistance bias position value) := by
  fun_induction writeDistance bias position value with
  | case1 position value threshold small =>
      have bounds := threshold_bounds position bias
      exact List.forall_mem_singleton.mpr ⟨value, by omega, rfl⟩
  | case2 position value threshold large ih =>
      have bounds := threshold_bounds position bias
      have below := Nat.mod_lt (value - threshold) (show 0 < 36 - threshold by omega)
      exact List.forall_mem_cons.mpr ⟨⟨_, by omega, rfl⟩, ih⟩

theorem writeAt_digits (code basic : Nat) (state : Writer) (c : Char)
    (digits : AreDigits state.written) : AreDigits (writeAt code basic state c).written := by
  unfold writeAt
  split
  · exact digits
  · split
    · exact List.forall_mem_append.mpr ⟨digits, writeDistance_digits _ _ _⟩
    · exact digits

theorem writeAll_digits (code basic : Nat) (label : List Char) (state : Writer)
    (digits : AreDigits state.written) :
    AreDigits (label.foldl (writeAt code basic) state).written := by
  induction label generalizing state with
  | nil => exact digits
  | cons c rest ih => exact ih _ (writeAt_digits code basic state c digits)

theorem writeCodes_digits (label : List Char) (basic next : Nat) (codes : List Nat)
    (state : Writer) (digits : AreDigits state.written) :
    AreDigits (writeCodes label basic next codes state).written := by
  induction codes generalizing next state with
  | nil => exact digits
  | cons code rest ih => exact ih _ _ (writeAll_digits code basic label _ digits)

/-- A label is written with its characters of ASCII, hyphens and digits. -/
theorem encode_cases (label : List Char) : ∀ c ∈ encode label,
    (c ∈ label ∧ isBasic c = true) ∨ c = '-' ∨ ∃ value < 36, c = digitChar value := by
  intro c present
  rw [encode] at present
  rcases List.mem_append.mp present with basic | digit
  · split at basic
    · cases basic
    · simp only [List.mem_append, List.mem_filter, List.mem_singleton] at basic
      exact basic.imp_right .inl
  · exact .inr (.inr (writeCodes_digits _ _ _ _ _ noDigits c digit))

end Punycode

-- Domains

theorem mapM_some {α β : Type} (read : α → Option β) (items : List α) (values : List β)
    (found : items.mapM read = some values) :
    ∀ value ∈ values, ∃ item ∈ items, read item = some value := by
  induction items generalizing values with
  | nil =>
      cases found
      exact fun _ nothing => absurd nothing List.not_mem_nil
  | cons item rest ih =>
      rw [List.mapM_cons] at found
      obtain ⟨first, readFirst, tail⟩ := Option.bind_eq_some_iff.mp found
      obtain ⟨others, readRest, same⟩ := Option.bind_eq_some_iff.mp tail
      cases same
      intro value present
      rcases List.mem_cons.mp present with rfl | later
      · exact ⟨item, List.mem_cons_self, readFirst⟩
      · obtain ⟨held, inside, readHeld⟩ := ih others readRest value later
        exact ⟨held, List.mem_cons_of_mem item inside, readHeld⟩

namespace Domain

/-- The characters of ASCII in a label stand in the part of the name that it is read from. -/
theorem label_basic (part label : List Char) (read : label? part = some label) :
    ∀ c ∈ label, Punycode.isBasic c = true → c ∈ part := by
  intro c present basic
  rw [label?] at read
  split at read
  · rw [ofMarked?] at read
    split at read
    · cases read
    · obtain ⟨found, decoded, same⟩ := Option.bind_eq_some_iff.mp read
      split at same
      · cases same
        exact List.mem_of_mem_drop (Punycode.decode_basic _ label decoded c present basic)
      · cases same
  · cases read
    exact present

theorem written_allowed : isForbidden '.' = false ∧ isForbidden '-' = false ∧
    mark.any isForbidden = false ∧
    ∀ value < 36, isForbidden (Punycode.digitChar value) = false := by decide

/-- A label is written without delimiters if none is among its characters of ASCII. -/
theorem labelToAscii_allowed (label : List Char)
    (allowed : ∀ c ∈ label, Punycode.isBasic c = true → isForbidden c = false) :
    ∀ c ∈ labelToAscii label, isForbidden c = false := by
  obtain ⟨_, hyphen, marks, digits⟩ := written_allowed
  intro c present
  rw [labelToAscii] at present
  split at present
  · next basic => exact allowed c present (List.all_eq_true.mp basic c present)
  · rcases List.mem_append.mp present with inMark | encoded
    · exact Bool.eq_false_iff.mpr (List.any_eq_false.mp marks c inMark)
    · rcases Punycode.encode_cases label c encoded with ⟨inside, basic⟩ | rfl | ⟨value, small, rfl⟩
      · exact allowed c inside basic
      · exact hyphen
      · exact digits value small

/-- A domain name is written without delimiters. -/
theorem toAscii_allowed (name text : List Char) (read : toAscii? name = some text) :
    ∀ c ∈ text, isForbidden c = false := by
  obtain ⟨folded, _, read⟩ := Option.bind_eq_some_iff.mp read
  split at read
  · cases read
  next clean =>
  obtain ⟨labels, readLabels, same⟩ := Option.bind_eq_some_iff.mp read
  split at same
  case isFalse => cases same
  case isTrue =>
    cases same
    intro c present
    rcases (Form.mem_joinWith '.' c _).mp present with ⟨rfl, _⟩ | ⟨written, member, inside⟩
    · exact written_allowed.1
    · obtain ⟨label, inLabels, rfl⟩ := List.mem_map.mp member
      obtain ⟨part, inParts, readLabel⟩ := mapM_some label? _ labels readLabels label inLabels
      refine labelToAscii_allowed label (fun d held basic => ?_) c inside
      have inFolded := Form.mem_splitAt '.' d folded part inParts
        (label_basic part label readLabel d held basic)
      by_contra forbidden
      exact clean (List.any_eq_true.mpr ⟨d, inFolded, by simpa using forbidden⟩)

end Domain

-- Numeric addresses

section Numbers

variable (base : Nat) (places : 1 < base) (digits : base ≤ 16)

include places digits

/-- Neither a question mark nor a number sign is a digit. -/
theorem toDigits_open (value : Nat) : ∀ c ∈ Nat.toDigits base value, (!Url.endsPath c) = true := by
  have digit : ∀ value < 16, (!Url.endsPath (Nat.digitChar value)) = true := by decide
  induction value using Nat.strongRecOn with
  | ind value ih =>
      intro c present
      rw [Nat.toDigits_eq_if places] at present
      split at present
      · next small =>
          obtain rfl := List.mem_singleton.mp present
          exact digit value (by omega)
      · next large =>
          rcases List.mem_append.mp present with front | last
          · exact ih _ (Nat.div_lt_self (by omega) places) c front
          · obtain rfl := List.mem_singleton.mp last
            have below := Nat.mod_lt value (Nat.lt_of_succ_lt places)
            exact digit _ (by omega)

theorem numbers_open (separator : Char) (apart : (!Url.endsPath separator) = true)
    (values : List Nat) :
    ∀ c ∈ Form.joinWith separator (values.map (Nat.toDigits base)), (!Url.endsPath c) = true := by
  intro c present
  rcases (Form.mem_joinWith separator c _).mp present with ⟨rfl, _⟩ | ⟨written, member, inside⟩
  · exact apart
  · obtain ⟨value, _, rfl⟩ := List.mem_map.mp member
    exact toDigits_open base places digits value c inside

end Numbers

theorem ipv6_open (pieces : List Nat) : ∀ c ∈ Ipv6.text pieces, (!Url.endsPath c) = true := by
  have written (some : List Nat) := numbers_open 16 (by decide) (by decide) ':' (by decide) some
  rw [Ipv6.text]
  split
  next start count _ =>
  dsimp only
  split
  · exact written pieces
  · simp only [List.forall_mem_append, List.forall_mem_cons]
    exact ⟨written _, by decide, by decide, written _⟩

theorem orFault_ok {α : Type} (fault : UrlFault) (found : Option α) (value : α)
    (read : Host.orFault fault found = .ok value) : found = some value := by
  cases found with
  | none => cases read
  | some held => exact congrArg some (Except.ok.inj read)

theorem open_allowed (c : Char) (allowed : Domain.isForbidden c = false) :
    (!Url.endsPath c) = true := by
  have question : c ≠ '?' := by
    rintro rfl
    cases allowed
  have hash : c ≠ '#' := by
    rintro rfl
    cases allowed
  simp [Url.endsPath, question, hash]

/-- The host of a web address is written without a question mark and a number sign. -/
theorem ofWebText_open (text : List Char) (host : Host) (read : Host.ofWebText text = .ok host) :
    ∀ c ∈ host.text, (!Url.endsPath c) = true := by
  unfold Host.ofWebText at read
  split at read
  · next rest =>
      rw [Host.ofBracketed] at read
      split at read
      · obtain ⟨pieces, _, rfl⟩ := Option.map_eq_some_iff.mp (orFault_ok _ _ _ read)
        simp only [Host.text, List.cons_append, List.forall_mem_cons, List.forall_mem_append]
        exact ⟨by decide, ipv6_open pieces, by simp [Url.endsPath]⟩
      · cases read
  · obtain ⟨decoded, _, read⟩ := (bind_ok _ _ _).mp read
    obtain ⟨name, found, read⟩ := (bind_ok _ _ _).mp read
    have allowed := Domain.toAscii_allowed _ name (orFault_ok _ _ _ found)
    rw [Host.ofName] at read
    split at read
    · cases read
    · split at read
      · obtain ⟨address, _, rfl⟩ := Option.map_eq_some_iff.mp (orFault_ok _ _ _ read)
        exact numbers_open 10 (by decide) (by decide) '.' (by decide) _
      · cases read
        exact fun c present => open_allowed c (allowed c present)

end Entitlement
