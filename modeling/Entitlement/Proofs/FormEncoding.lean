import Entitlement.Proofs.Percent
import Entitlement.Text.Form

/-!
A query reads back as the pairs that were written into it. What is written for a name or a value
holds none of the two delimiters, so the query is cut where it was joined; within a part, the space
and the percent forms are undone one character at a time.
-/

namespace Entitlement.Text.Form

-- Cutting and joining

theorem splitAt_splitOn (separator : Char) (text : List Char) :
    splitAt separator text = text.splitOn separator := by
  induction text with
  | nil => rw [splitAt, List.splitOn_nil]
  | cons c rest ih =>
      rw [splitAt, ih, List.splitOn_cons_eq_if_modifyHead]
      cases parts : rest.splitOn separator with
      | nil => exact absurd parts (List.splitOn_ne_nil separator rest)
      | cons part parts =>
          by_cases same : c = separator
          · simp [same]
          · simp [same]

theorem joinWith_intercalate (separator : Char) (parts : List (List Char)) :
    joinWith separator parts = [separator].intercalate parts := by
  induction parts with
  | nil => rfl
  | cons part rest ih =>
      cases rest with
      | nil => simp [joinWith]
      | cons next more =>
          rw [List.intercalate_cons_cons, ← ih, List.append_assoc]
          rfl

theorem splitAt_joinWith (separator : Char) (parts : List (List Char)) (some : parts ≠ [])
    (clean : ∀ part ∈ parts, separator ∉ part) :
    splitAt separator (joinWith separator parts) = parts := by
  rw [splitAt_splitOn, joinWith_intercalate]
  exact List.splitOn_intercalate separator clean some

theorem mem_joinWith (separator c : Char) (parts : List (List Char)) :
    c ∈ joinWith separator parts ↔
      (c = separator ∧ 1 < parts.length) ∨ ∃ part ∈ parts, c ∈ part := by
  induction parts with
  | nil => simp [joinWith]
  | cons part rest ih =>
      cases rest with
      | nil => simp [joinWith]
      | cons next more =>
          have whole : joinWith separator (part :: next :: more) =
              part ++ separator :: joinWith separator (next :: more) := rfl
          by_cases same : c = separator <;> simp [whole, ih, same]

/-- Every character of a part stands in the text that is cut. -/
theorem mem_splitAt (separator c : Char) (text part : List Char)
    (piece : part ∈ splitAt separator text) (present : c ∈ part) : c ∈ text := by
  have joined : joinWith separator (splitAt separator text) = text := by
    rw [joinWith_intercalate, splitAt_splitOn]
    exact List.intercalate_splitOn separator
  rw [← joined, mem_joinWith]
  exact .inr ⟨part, piece, present⟩

theorem splitAt_append (separator : Char) (before after : List Char) :
    splitAt separator (before ++ separator :: after) =
      splitAt separator before ++ splitAt separator after := by
  rw [splitAt_splitOn, splitAt_splitOn, splitAt_splitOn]
  exact List.splitOn_append_cons_self before after

/-- A text that does not end in a separator has a last part that ends as the text does. -/
theorem splitAt_last (separator : Char) (text : List Char) (last : Char)
    (other : last ≠ separator) :
    ∃ parts part, splitAt separator (text ++ [last]) = parts ++ [part ++ [last]] := by
  induction text with
  | nil => exact ⟨[], [], by simp [splitAt, other]⟩
  | cons c rest ih =>
      obtain ⟨parts, part, split⟩ := ih
      rw [List.cons_append, splitAt, split]
      by_cases same : c = separator
      · cases parts with
        | nil => exact ⟨[[]], part, by simp [same]⟩
        | cons first parts => exact ⟨[] :: first :: parts, part, by simp [same]⟩
      · cases parts with
        | nil => exact ⟨[], c :: part, by simp [same]⟩
        | cons first parts => exact ⟨(c :: first) :: parts, part, by simp [same]⟩

/-- The last part stands at the end of the text and holds no separator. -/
theorem splitAt_final (separator : Char) (text : List Char) :
    ∃ front last, splitAt separator text = front ++ [last] ∧ last <:+ text ∧ separator ∉ last ∧
      (front = [] → last = text) := by
  induction text with
  | nil => exact ⟨[], [], rfl, List.suffix_refl _, List.not_mem_nil, fun _ => rfl⟩
  | cons c rest ih =>
      obtain ⟨front, last, split, ends, clean, alone⟩ := ih
      rw [splitAt, split]
      by_cases same : c = separator
      · cases front with
        | nil =>
            exact ⟨[[]], last, by simp [same], ends.trans (List.suffix_cons c rest), clean, nofun⟩
        | cons first front =>
            exact ⟨[] :: first :: front, last, by simp [same],
              ends.trans (List.suffix_cons c rest), clean, nofun⟩
      · cases front with
        | nil =>
            obtain rfl := alone rfl
            refine ⟨[], c :: last, by simp [same], List.suffix_refl _, ?_, fun _ => rfl⟩
            rw [List.mem_cons]
            exact fun held => held.elim (fun equal => same equal.symm) clean
        | cons first front =>
            exact ⟨(c :: first) :: front, last, by simp [same],
              ends.trans (List.suffix_cons c rest), clean, nofun⟩

theorem splitAt_clean (separator : Char) (text : List Char) (clean : separator ∉ text) :
    splitAt separator text = [text] := by
  rw [splitAt_splitOn]
  exact List.splitOn_eq_singleton clean

/-- What stands behind the last separator does not depend on what stands before it. -/
theorem behind_last (separator : Char) (before after other last : List Char)
    (clean : separator ∉ after) (cleanLast : separator ∉ last)
    (same : before ++ separator :: after = other ++ separator :: last) : after = last := by
  have split := congrArg (splitAt separator) same
  rw [splitAt_append, splitAt_append, splitAt_clean separator after clean,
    splitAt_clean separator last cleanLast] at split
  exact List.singleton_inj.mp (List.append_inj' split rfl).2

/-- A text may be encoded part by part, if its separator is kept. -/
theorem joinWith_encoded (isKept : Char → Bool) (separator : Char)
    (kept : isKept separator = true) (text : List Char) :
    joinWith separator ((splitAt separator text).map (percentEncode isKept)) =
      percentEncode isKept text := by
  induction text with
  | nil => rfl
  | cons c rest ih =>
      have written : percentEncode isKept (c :: rest) =
          percentChar isKept c ++ percentEncode isKept rest := List.flatMap_cons
      rw [splitAt, written, ← ih]
      cases parts : splitAt separator rest with
      | nil =>
          rw [splitAt_splitOn] at parts
          exact absurd parts (List.splitOn_ne_nil separator rest)
      | cons part more =>
          by_cases same : c = separator
          · rw [same, percentChar_kept separator kept]
            simp [joinWith, percentEncode]
          · cases more <;> simp [joinWith, percentEncode, same]

-- What is written for a text

/-- Whatever stands in a written text is a plus sign, or part of a percent form, or kept. -/
theorem mem_percentChar (kept : Char → Bool) (c written : Char)
    (member : written ∈ percentChar kept c) :
    written = '%' ∨ (∃ value < 16, written = upperHex value) ∨ written = c ∧ kept c = true := by
  unfold percentChar at member
  split at member
  · next isKept =>
      exact .inr (.inr ⟨List.mem_singleton.mp member, isKept⟩)
  · obtain ⟨byte, _, inByte⟩ := List.mem_flatMap.mp member
    have small : byte.toNat < 256 := byte.toNat_lt
    rcases List.mem_cons.mp inByte with mark | inDigits
    · exact .inl mark
    · rcases List.mem_pair.mp inDigits with high | low
      · exact .inr (.inl ⟨byte.toNat / 16, by omega, high⟩)
      · exact .inr (.inl ⟨byte.toNat % 16, by omega, low⟩)

/-- A delimiter is neither written in percent forms nor kept. -/
def Delimits (mark : Char) : Prop :=
  mark ≠ '%' ∧ (∀ value < 16, mark ≠ upperHex value) ∧ isKept mark = false

theorem delimits_marks : Delimits '&' ∧ Delimits '=' ∧ Delimits '+' := by
  unfold Delimits
  decide

theorem percentChar_without (mark c : Char) (delimits : Delimits mark) :
    mark ∉ percentChar isKept c := by
  intro member
  obtain ⟨notPercent, notDigit, notKept⟩ := delimits
  rcases mem_percentChar isKept c mark member with percent | ⟨value, small, digit⟩ | ⟨rfl, kept⟩
  · exact notPercent percent
  · exact notDigit value small digit
  · rw [notKept] at kept
    cases kept

theorem writeText_without (mark : Char) (text : String) (delimits : Delimits mark)
    (notPlus : mark ≠ '+') : mark ∉ writeText text := by
  intro member
  obtain ⟨c, _, inside⟩ := List.mem_flatMap.mp member
  unfold writeChar at inside
  split at inside
  · exact notPlus (List.mem_singleton.mp inside)
  · exact percentChar_without mark c delimits inside

theorem decode_writeChar (c : Char) (rest : List Char) :
    percentDecode ((writeChar c).map plusAsSpace ++ rest) =
      String.utf8EncodeChar c ++ percentDecode rest := by
  unfold writeChar
  split
  · next space =>
      subst space
      exact decode_other ' ' rest (by decide)
  · have noPlus : ∀ written ∈ percentChar isKept c, plusAsSpace written = written := by
      intro written member
      apply if_neg
      rintro rfl
      exact percentChar_without '+' c delimits_marks.2.2 member
    rw [List.map_congr_left noPlus, List.map_id']
    exact decode_percentChar isKept (by decide) c rest

theorem readText_writeText (text : String) : readText (writeText text) = text := by
  have read (characters : List Char) :
      percentDecode ((characters.flatMap writeChar).map plusAsSpace) = bytesOf characters := by
    induction characters with
    | nil => rfl
    | cons c rest ih =>
        rw [List.flatMap_cons, List.map_append, decode_writeChar, ih, bytesOf_cons]
  rw [readText, writeText, read, repair_bytesOf, String.ofList_toList]

-- Pairs

theorem writePair_without (pair : String × String) : '&' ∉ writePair pair := by
  have clean (text : String) := writeText_without '&' text delimits_marks.1 (by decide)
  simp [writePair, clean]

theorem readPair_writePair (pair : String × String) : readPair (writePair pair) = pair := by
  have noEquals : ∀ c ∈ writeText pair.1, decide (c ≠ '=') = true := by
    intro c member
    apply decide_eq_true
    rintro rfl
    exact writeText_without '=' pair.1 delimits_marks.2.1 (by decide) member
  rw [readPair, writePair, List.takeWhile_append_of_pos noEquals,
    List.dropWhile_append_of_pos noEquals]
  simp [readText_writeText]

/-- A query reads back as its pairs, in order and with every name and value unchanged. -/
theorem read_write (pairs : List (String × String)) : read (write pairs) = pairs := by
  cases pairs with
  | nil => rfl
  | cons first rest =>
      have parts : splitAt '&' (write (first :: rest)) = (first :: rest).map writePair := by
        apply splitAt_joinWith
        · simp
        · intro part member
          obtain ⟨pair, _, rfl⟩ := List.mem_map.mp member
          exact writePair_without pair
      have filled : ((first :: rest).map writePair).filter (!·.isEmpty) =
          (first :: rest).map writePair := by
        rw [List.filter_eq_self]
        intro part member
        obtain ⟨pair, _, rfl⟩ := List.mem_map.mp member
        simp [writePair]
      rw [read, parts, filled, List.map_map]
      conv_rhs => rw [← List.map_id (first :: rest)]
      exact List.map_congr_left fun pair _ => readPair_writePair pair

end Entitlement.Text.Form
