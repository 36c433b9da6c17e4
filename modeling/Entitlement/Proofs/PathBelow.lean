import Entitlement.Proofs.FormEncoding
import Entitlement.Url.Path

/-!
Paths that begin with another path. Segments are added one at a time, so what stands in front only
matters through the segments that it leaves; one more slash and further segments go behind these.
Writing a segment keeps its percent signs, so it reads as the text did, and only a text that reads
as one dot or two can be written as a dot segment.
-/

namespace Entitlement.UrlPath

open Text

-- Adding segments

/-- The segments so far, the last one first, after one more that is not the last. -/
def afterSegment (before : List (List Char)) (segment : List Char) : List (List Char) :=
  if isDoubleDot segment then takeBack before
  else if isSingleDot segment then before
  else segment :: before

def isDot (segment : List Char) : Bool := isDoubleDot segment || isSingleDot segment

theorem settleDrive_web (before : List (List Char)) (segment : List Char) :
    settleDrive .web before segment = segment := by
  rw [settleDrive, if_neg (by simp)]

theorem addSegments_more (before more : List (List Char)) (segment : List Char)
    (some : more ≠ []) :
    addSegments .web before (segment :: more) =
      addSegments .web (afterSegment before segment) more := by
  cases more with
  | nil => exact absurd rfl some
  | cons next rest =>
      rw [addSegments, afterSegment]
      · split
        · rfl
        · split
          · rfl
          · rw [settleDrive_web]
      · exact some

theorem addSegments_append (segments more before : List (List Char)) (some : more ≠ []) :
    addSegments .web before (segments ++ more) =
      addSegments .web (segments.foldl afterSegment before) more := by
  induction segments generalizing before with
  | nil => rfl
  | cons segment rest ih =>
      rw [List.cons_append, addSegments_more before (rest ++ more) segment (by simp [some]), ih,
        List.foldl_cons]

-- A dot at the end leaves an empty segment; any other last segment is one like the others.
theorem addSegments_last (before : List (List Char)) (last : List Char) :
    addSegments .web before [last] =
      if isDot last then (afterSegment before last).reverse ++ [[]]
      else (afterSegment before last).reverse := by
  rw [addSegments, afterSegment, isDot]
  cases isDoubleDot last with
  | true => simp
  | false =>
      cases isSingleDot last with
      | true => simp
      | false => simp [settleDrive_web]

theorem afterSegment_plain (before : List (List Char)) (segment : List Char)
    (plain : isDot segment = false) : afterSegment before segment = segment :: before := by
  obtain ⟨notDouble, notSingle⟩ := Bool.or_eq_false_iff.mp plain
  simp [afterSegment, notDouble, notSingle]

theorem addSegments_undotted (segments before : List (List Char)) (some : segments ≠ [])
    (undotted : ∀ segment ∈ segments, isDot segment = false) :
    addSegments .web before segments = before.reverse ++ segments := by
  induction segments generalizing before with
  | nil => exact absurd rfl some
  | cons segment rest ih =>
      have plain := undotted segment List.mem_cons_self
      cases rest with
      | nil => simp [addSegments_last, plain, afterSegment_plain before segment plain]
      | cons next more =>
          rw [addSegments_more before (next :: more) segment (by simp),
            afterSegment_plain before segment plain, ih (segment :: before) (by simp)
              fun held member => undotted held (List.mem_cons_of_mem _ member)]
          simp

theorem mem_afterSegment (before : List (List Char)) (segment held : List Char)
    (present : held ∈ afterSegment before segment) : held ∈ before ∨ held = segment := by
  rw [afterSegment] at present
  split at present
  · refine .inl ?_
    cases before with
    | nil => exact present
    | cons last rest =>
        rw [takeBack] at present
        split at present
        · exact present
        · exact List.mem_cons_of_mem last present
  · split at present
    · exact .inl present
    · exact (List.mem_cons.mp present).symm

/-- Adding segments makes up no others but empty ones. -/
theorem mem_addSegments (held : List Char) (segments before : List (List Char))
    (present : held ∈ addSegments .web before segments) :
    held ∈ before ∨ held ∈ segments ∨ held = [] := by
  induction segments generalizing before with
  | nil => exact .inl (List.mem_reverse.mp present)
  | cons segment rest ih =>
      have among (after : held ∈ afterSegment before segment) :
          held ∈ before ∨ held ∈ segment :: rest ∨ held = [] := by
        rcases mem_afterSegment before segment held after with inside | rfl
        · exact .inl inside
        · exact .inr (.inl List.mem_cons_self)
      cases rest with
      | nil =>
          rw [addSegments_last] at present
          split at present
          · rcases List.mem_append.mp present with after | last
            · exact among (List.mem_reverse.mp after)
            · exact .inr (.inr (List.mem_singleton.mp last))
          · exact among (List.mem_reverse.mp present)
      | cons next more =>
          rw [addSegments_more _ _ _ (List.cons_ne_nil next more)] at present
          rcases ih _ present with after | later | empty
          · exact among after
          · exact .inr (.inl (List.mem_cons_of_mem segment later))
          · exact .inr (.inr empty)

-- Paths as texts

def stem (path : UrlPath) : List Char :=
  if path.text.getLast? = some '/' then path.text.dropLast else path.text

def bare (path : UrlPath) : List Char := (path.text.reverse.dropWhile (· == '/')).reverse

/-- One slash less is all slashes less, unless several stand at the end. -/
theorem stem_bare (path : UrlPath) (single : ¬ ['/', '/'] <:+ path.text) :
    path.stem = path.bare := by
  rw [stem, bare]
  rcases List.eq_nil_or_concat' path.text with nothing | ⟨front, last, ends⟩
  · simp [nothing]
  by_cases slash : last = '/'
  · subst slash
    rw [ends, List.getLast?_concat, if_pos rfl, List.dropLast_concat, List.reverse_concat,
      List.dropWhile_cons_of_pos (by decide)]
    rcases List.eq_nil_or_concat' front with rfl | ⟨start, c, rfl⟩
    · rfl
    have other : (c == '/') = false := by
      rw [beq_eq_false_iff_ne]
      rintro rfl
      exact single ⟨start, by rw [ends, List.append_assoc]; rfl⟩
    rw [List.reverse_concat, List.dropWhile_cons_of_neg (by simp [other]), List.reverse_cons,
      List.reverse_reverse]
  · rw [ends, List.getLast?_concat, if_neg (by simpa using slash), List.reverse_concat,
      List.dropWhile_cons_of_neg (by simpa using slash), List.reverse_cons, List.reverse_reverse]

theorem text_append (before after : List (List Char)) :
    (rooted (before ++ after)).text = (rooted before).text ++ (rooted after).text :=
  List.flatMap_append

theorem stem_emptied (segments : List (List Char)) :
    (rooted (segments ++ [[]])).stem = (rooted segments).text := by
  have text : (rooted (segments ++ [[]])).text = (rooted segments).text ++ ['/'] :=
    text_append segments [[]]
  rw [stem, text, if_pos (by simp), List.dropLast_concat]

theorem stem_filled (segments : List (List Char)) (last : Char)
    (ends : (rooted segments).text.getLast? = some last) (filled : last ≠ '/') :
    (rooted segments).stem = (rooted segments).text := by
  rw [stem, ends, if_neg]
  exact fun same => filled (Option.some.inj same)

theorem text_joined (segments : List (List Char)) (some : segments ≠ []) :
    (rooted segments).text = '/' :: Form.joinWith '/' segments := by
  induction segments with
  | nil => exact absurd rfl some
  | cons segment rest ih =>
      cases rest with
      | nil => simp [text, Form.joinWith]
      | cons next more =>
          have tail := ih (by simp)
          simp only [text, List.flatMap_cons] at tail ⊢
          rw [tail]
          rfl

-- Segments of a text

def slashed (text : List Char) : List Char :=
  text.map fun c => if SchemeKind.web.isSlash c then '/' else c

theorem slash_cases (c : Char) (slash : SchemeKind.web.isSlash c = true) : c = '/' ∨ c = '\\' := by
  simpa [SchemeKind.isSlash, SchemeKind.isKnown] using slash

theorem slashed_same (text : List Char) (plain : ∀ c ∈ text, c ≠ '\\') : slashed text = text := by
  refine (List.map_congr_left fun c present => ?_).trans (List.map_id' text)
  cases slash : SchemeKind.web.isSlash c with
  | false => rfl
  | true =>
      rcases slash_cases c slash with rfl | rfl
      · rfl
      · exact absurd rfl (plain _ present)

theorem slashed_bytes (text : List Char) :
    (bytesOf (slashed text)).length = (bytesOf text).length := by
  unfold slashed
  induction text with
  | nil => rfl
  | cons c rest ih =>
      rw [List.map_cons, bytesOf_cons, bytesOf_cons, List.length_append, List.length_append, ih]
      cases slash : SchemeKind.web.isSlash c with
      | false => rfl
      | true => rcases slash_cases c slash with rfl | rfl <;> rfl

theorem slashless_slashed (text : List Char) (clean : '/' ∉ slashed text) :
    ∀ c ∈ text, SchemeKind.web.isSlash c = false := by
  intro c present
  by_contra slash
  refine clean (List.mem_map.mpr ⟨c, present, if_pos ?_⟩)
  simpa using slash

theorem slashless_same (text : List Char)
    (slashless : ∀ c ∈ text, SchemeKind.web.isSlash c = false) : slashed text = text := by
  refine slashed_same text fun c present => ?_
  rintro rfl
  have slash := slashless _ present
  cases slash

/-- The segments that a text is cut into, each in percent form. -/
def segmentsOf (text : List Char) : List (List Char) :=
  (splitSlashes .web text).map (percentEncode keptInPath)

theorem segmentsOf_slashed (text : List Char) :
    segmentsOf text = (Form.splitAt '/' (slashed text)).map (percentEncode keptInPath) := rfl

theorem segmentsOf_some (text : List Char) : segmentsOf text ≠ [] := by
  simp [segmentsOf, splitSlashes, Form.splitAt_splitOn]

theorem segmentsOf_slash (before after : List Char) :
    segmentsOf (before ++ '/' :: after) = segmentsOf before ++ segmentsOf after := by
  simp [segmentsOf, splitSlashes, Form.splitAt_append, SchemeKind.isSlash]

/-- A slash is only written for a slash. -/
theorem slash_written (c : Char) (member : '/' ∈ percentChar keptInPath c) : c = '/' := by
  rcases Form.mem_percentChar keptInPath c '/' member with mark | ⟨value, small, digit⟩ | ⟨same, _⟩
  · exact absurd mark (by decide)
  · have noDigit : ∀ value < 16, '/' ≠ upperHex value := by decide
    exact absurd digit (noDigit value small)
  · exact same.symm

/-- The last segment of a text that does not end in a slash does not end in one either. -/
theorem segmentsOf_last (text : List Char) (last : Char)
    (plain : SchemeKind.web.isSlash last = false) :
    ∃ segments segment c, segmentsOf (text ++ [last]) = segments ++ [segment ++ [c]] ∧ c ≠ '/' := by
  have noSlash : last ≠ '/' := by
    rintro rfl
    cases plain
  obtain ⟨parts, part, split⟩ := Form.splitAt_last '/' (slashed text) last noSlash
  have written : segmentsOf (text ++ [last]) = parts.map (percentEncode keptInPath) ++
      [percentEncode keptInPath part ++ percentChar keptInPath last] := by
    have behind : slashed (text ++ [last]) = slashed text ++ [last] := by
      rw [slashed, List.map_append, List.map_singleton, plain]
      rfl
    rw [segmentsOf_slashed, behind, split]
    simp [percentEncode]
  have filled : percentChar keptInPath last ≠ [] := by
    cases kept : keptInPath last with
    | true => simp [percentChar_kept last kept]
    | false =>
        obtain ⟨more, encoded⟩ := percentChar_encoded last kept
        simp [encoded]
  obtain ⟨front, c, ends⟩ := List.eq_nil_or_concat' _ |>.resolve_left filled
  refine ⟨parts.map (percentEncode keptInPath), percentEncode keptInPath part ++ front, c, ?_, ?_⟩
  · rw [written, ends, List.append_assoc]
  · rintro rfl
    exact noSlash (slash_written last (by simp [ends]))

theorem slashless_written (text : List Char) (clean : '/' ∉ text) :
    '/' ∉ percentEncode keptInPath text := by
  intro held
  obtain ⟨c, present, written⟩ := List.mem_flatMap.mp held
  exact clean (slash_written c written ▸ present)

theorem segmentsOf_slashless (text : List Char)
    (slashless : ∀ c ∈ text, SchemeKind.web.isSlash c = false) :
    segmentsOf text = [percentEncode keptInPath text] := by
  have clean : '/' ∉ text := fun present => by
    have slash := slashless '/' present
    cases slash
  rw [segmentsOf_slashed, slashless_same text slashless, Form.splitAt_clean '/' text clean,
    List.map_singleton]

/-- The last segment that a text adds is empty, or it is written for the end of the text. -/
theorem addSegments_final (before : List (List Char)) (text : List Char) :
    ∃ front last, addSegments .web before (segmentsOf text) = front ++ [last] ∧
      '/' ∉ last ∧ (last = [] ∨ ∃ written, last = percentEncode keptInPath written ∧
        written <:+ slashed text ∧ '/' ∉ written ∧ isDot last = false) := by
  obtain ⟨parts, written, split, ends, clean, _⟩ := Form.splitAt_final '/' (slashed text)
  have segments : segmentsOf text =
      parts.map (percentEncode keptInPath) ++ [percentEncode keptInPath written] := by
    rw [segmentsOf_slashed, split, List.map_append, List.map_singleton]
  rw [segments, addSegments_append _ _ _ (List.cons_ne_nil _ _),
    addSegments_last]
  cases dot : isDot (percentEncode keptInPath written) with
  | true => exact ⟨_, [], if_pos rfl, List.not_mem_nil, .inl rfl⟩
  | false =>
      rw [if_neg Bool.false_ne_true, afterSegment_plain _ _ dot, List.reverse_cons]
      exact ⟨_, _, rfl, slashless_written written clean, .inr ⟨written, rfl, ends, clean, dot⟩⟩

-- What a segment reads as

theorem encodedDot_cases (segment : List Char) (dot : isEncodedDot segment = true) :
    segment = ['.'] ∨ segment = ['%', '2', 'e'] ∨ segment = ['%', '2', 'E'] := by
  unfold isEncodedDot at dot
  split at dot
  · exact .inl rfl
  · exact .inr (.inl rfl)
  · exact .inr (.inr rfl)
  · cases dot

/-- A dot segment reads as one dot or two. -/
theorem dot_decoded (segment : List Char) (dot : isDot segment = true) :
    percentDecode segment = bytesOf ['.'] ∨ percentDecode segment = bytesOf ['.', '.'] := by
  have two (one other : List Char) (first : isEncodedDot one = true)
      (second : isEncodedDot other = true) :
      percentDecode (one ++ other) = bytesOf ['.', '.'] := by
    rcases encodedDot_cases one first with rfl | rfl | rfl <;>
      rcases encodedDot_cases other second with rfl | rfl | rfl <;> decide
  rcases Bool.or_eq_true_iff.mp dot with double | single
  · refine .inr ?_
    rcases Bool.or_eq_true_iff.mp double with short | long
    · obtain ⟨one, other⟩ := Bool.and_eq_true_iff.mp short
      rw [← List.take_append_drop 1 segment]
      exact two _ _ one other
    · obtain ⟨one, other⟩ := Bool.and_eq_true_iff.mp long
      rw [← List.take_append_drop 3 segment]
      exact two _ _ one other
  · rcases encodedDot_cases segment single with rfl | rfl | rfl <;> exact .inl (by decide)

theorem digit_kept (c : Char) (digit : (hexValue? c).isSome = true) : keptInPath c = true := by
  have code (greatest : Char) (below : c ≤ greatest) : c.toNat ≤ greatest.toNat :=
    UInt32.le_iff_toNat_le.mp below
  have small : c.toNat < 128 := by
    unfold hexValue? at digit
    split at digit
    · next range => exact Nat.lt_of_le_of_lt (code '9' range.2) (by decide)
    · split at digit
      · next range => exact Nat.lt_of_le_of_lt (code 'f' range.2) (by decide)
      · split at digit
        · next range => exact Nat.lt_of_le_of_lt (code 'F' range.2) (by decide)
        · cases digit
  have each : ∀ code < 128, (hexValue? (Char.ofNat code)).isSome = true →
      keptInPath (Char.ofNat code) = true := by decide
  have kept := each c.toNat small
  rw [Char.ofNat_toNat] at kept
  exact kept digit

/-- A segment reads as its text does. -/
theorem segment_decoded (text : List Char) :
    percentDecode (percentEncode keptInPath text) = percentDecode text :=
  decode_keeping (by decide) digit_kept text

theorem undotted_written (text : List Char) (free : EscapeFree text)
    (undotted : text ≠ ['.'] ∧ text ≠ ['.', '.']) :
    isDot (percentEncode keptInPath text) = false := by
  by_contra dot
  have read := dot_decoded _ (Bool.not_eq_false _ ▸ dot)
  rw [segment_decoded, decode_free text free] at read
  rcases read with one | two
  · exact undotted.1 (bytesOf_inj _ _ one)
  · exact undotted.2 (bytesOf_inj _ _ two)

end Entitlement.UrlPath
