import Entitlement.Json.Write
import Entitlement.Proofs.Canonical
import Entitlement.Proofs.TextParts
import Entitlement.Proofs.Utf8

/-!
JSON text that is written reads back as the tree it was written for, as long as no numbers stand in
it. The escapes are undone one character at a time; above that the text of a list or object is put
together from those of its items or members, as a reader takes it apart.
-/

namespace Entitlement.Json

open Text Document

-- Quoted texts

/-- The four digits of an escaped control character stand for its code. -/
theorem hexWord_control (value : Nat) (control : value < 0x20) :
    hexWord? (.char '0') (.char '0') (.char (hexDigit (value / 16)))
      (.char (hexDigit (value % 16))) = some value := by
  have each : ∀ value < 0x20, hexWord? (.char '0') (.char '0') (.char (hexDigit (value / 16)))
      (.char (hexDigit (value % 16))) = some value := by decide
  exact each value control

/-- A character is written as a letter behind a backslash, by its code, or as it is. -/
theorem escaped_cases (c : Char) :
    (∃ letter, letter ≠ 'u' ∧ simpleEscape? letter = some c ∧ escapedChar c = ['\\', letter]) ∨
      (c.toNat < 0x20 ∧ escapedChar c =
        ['\\', 'u', '0', '0', hexDigit (c.toNat / 16), hexDigit (c.toNat % 16)]) ∨
      (c ≠ '\x22' ∧ c ≠ '\\' ∧ ¬ c.toNat < 0x20 ∧ escapedChar c = [c]) := by
  unfold escapedChar
  by_cases quote : c = '\x22'
  · exact .inl ⟨'\x22', by decide, by simp [quote, simpleEscape?], if_pos quote⟩
  by_cases backslash : c = '\\'
  · exact .inl ⟨'\\', by decide, by simp [backslash, simpleEscape?], by simp [backslash]⟩
  by_cases back : c = '\x08'
  · exact .inl ⟨'b', by decide, by simp [back, simpleEscape?], by simp [back]⟩
  by_cases page : c = '\x0c'
  · exact .inl ⟨'f', by decide, by simp [page, simpleEscape?], by simp [page]⟩
  by_cases line : c = '\n'
  · exact .inl ⟨'n', by decide, by simp [line, simpleEscape?], by simp [line]⟩
  by_cases start : c = '\r'
  · exact .inl ⟨'r', by decide, by simp [start, simpleEscape?], by simp [start]⟩
  by_cases tab : c = '\t'
  · exact .inl ⟨'t', by decide, by simp [tab, simpleEscape?], by simp [tab]⟩
  by_cases control : c.toNat < 0x20
  · refine .inr (.inl ⟨control, ?_⟩)
    simp [quote, backslash, back, page, line, start, tab, control]
  · refine .inr (.inr ⟨quote, backslash, control, ?_⟩)
    simp [quote, backslash, back, page, line, start, tab, control]

theorem readText_char (c : Char) (taken : List Char) (damaged : Bool) (rest : List Piece) :
    readTextFrom taken damaged ((escapedChar c).map .char ++ rest) =
      readTextFrom (c :: taken) damaged rest := by
  rcases escaped_cases c with ⟨letter, notCode, stands, written⟩ | ⟨control, written⟩ |
    ⟨notQuote, notBackslash, visible, written⟩
  · rw [written]
    conv_lhs => rw [readTextFrom.eq_def]
    simp [notCode, stands]
  · have notTrailing : isTrailing c.toNat = false := by simp [isTrailing]; omega
    have notLeading : isLeading c.toNat = false := by simp [isLeading]; omega
    rw [written]
    conv_lhs => rw [readTextFrom.eq_def]
    simp [hexWord_control c.toNat control, notTrailing, notLeading, Char.ofNat_toNat]
  · rw [written]
    conv_lhs => rw [readTextFrom.eq_def]
    simp [notQuote, notBackslash, visible]

theorem skipText_char (c : Char) (rest : List Piece) :
    skipText ((escapedChar c).map .char ++ rest) = skipText rest := by
  rcases escaped_cases c with ⟨letter, notCode, stands, written⟩ | ⟨control, written⟩ |
    ⟨notQuote, notBackslash, visible, written⟩
  · rw [written]
    conv_lhs => rw [skipText.eq_def]
    simp [notCode, stands]
  · rw [written]
    conv_lhs => rw [skipText.eq_def]
    simp [hexWord_control c.toNat control]
  · rw [written]
    conv_lhs => rw [skipText.eq_def]
    simp [notQuote, notBackslash, visible]

/-- A written text is skipped up to its closing quote, and read as itself. -/
theorem text_written (text : String) (rest : List Piece) :
    skipText ((text.toList.flatMap escapedChar).map .char ++ .char '\x22' :: rest) = .ok rest ∧
      Document.textOf ((text.toList.flatMap escapedChar).map .char ++ .char '\x22' :: rest) =
        .ok text := by
  have skipped (characters : List Char) :
      skipText ((characters.flatMap escapedChar).map .char ++ .char '\x22' :: rest) = .ok rest := by
    induction characters with
    | nil =>
        rw [List.flatMap_nil, List.map_nil, List.nil_append, skipText.eq_def]
        exact if_pos rfl
    | cons c more ih =>
        rw [List.flatMap_cons, List.map_append, List.append_assoc, skipText_char, ih]
  have read (characters taken : List Char) :
      readTextFrom taken false ((characters.flatMap escapedChar).map .char ++
        .char '\x22' :: rest) = .ok (String.ofList (taken.reverse ++ characters), rest) := by
    induction characters generalizing taken with
    | nil =>
        rw [List.flatMap_nil, List.map_nil, List.nil_append, readTextFrom.eq_def, List.append_nil]
        exact if_pos rfl
    | cons c more ih =>
        rw [List.flatMap_cons, List.map_append, List.append_assoc, readText_char, ih,
          List.reverse_cons, List.append_assoc, List.singleton_append]
  refine ⟨skipped text.toList, ?_⟩
  rw [Document.textOf, readText, read, List.reverse_nil, List.nil_append, String.ofList_toList]
  rfl

-- Depth

namespace Tree

mutual

/-- Whether a tree has no numbers, and its lists and objects may be entered with the depth that is
left. -/
def fits (depth : Nat) : Tree → Bool
  | .number _ => false
  | .list items => 1 < depth && itemsFit (depth - 1) items
  | .object members => 1 < depth && membersFit (depth - 1) members
  | _ => true

def itemsFit (depth : Nat) : List Tree → Bool
  | [] => true
  | item :: rest => item.fits depth && itemsFit depth rest

def membersFit (depth : Nat) : List (String × Tree) → Bool
  | [] => true
  | (_, value) :: rest => value.fits depth && membersFit depth rest

end

theorem itemsFit_map {α : Type} (depth : Nat) (write : α → Tree) (values : List α)
    (each : ∀ value, (write value).fits depth = true) :
    itemsFit depth (values.map write) = true := by
  induction values with
  | nil => rfl
  | cons value rest ih => rw [List.map_cons, itemsFit, each value, ih]; rfl

theorem membersFit_map {α : Type} (depth : Nat) (write : α → Tree) (entries : List (String × α))
    (each : ∀ value, (write value).fits depth = true) :
    membersFit depth (entries.map fun entry => (entry.1, write entry.2)) = true := by
  induction entries with
  | nil => rfl
  | cons entry rest ih => rw [List.map_cons, membersFit, each entry.2, ih]; rfl

end Tree

theorem enter_fits (depth : Nat) (deep : decide (1 < depth) = true) :
    enter depth = .ok (depth - 1) :=
  if_neg (Nat.not_le_of_lt (of_decide_eq_true deep))

-- Written trees

def memberText (member : String × Tree) : List Piece :=
  ((writeText member.1 ++ [':']) ++ member.2.chars).map .char

theorem itemChars_commas (items : List Tree) :
    (Tree.itemChars items).map .char = commas (items.map fun item => item.chars.map .char) := by
  induction items with
  | nil => rfl
  | cons item rest ih =>
      cases rest with
      | nil => rfl
      | cons next rest =>
          rw [List.map_cons] at ih
          rw [List.map_cons, List.map_cons, commas, ← ih]
          simp [Tree.itemChars]

theorem memberChars_commas (members : List (String × Tree)) :
    (Tree.memberChars members).map .char = commas (members.map memberText) := by
  induction members with
  | nil => rfl
  | cons member rest ih =>
      obtain ⟨key, value⟩ := member
      cases rest with
      | nil => simp [Tree.memberChars, commas, memberText]
      | cons next rest =>
          rw [List.map_cons] at ih
          rw [List.map_cons, List.map_cons, commas, ← ih]
          simp [Tree.memberChars, memberText]

theorem list_written (items : List Tree) :
    (Tree.list items).chars.map .char =
      inBrackets (items.map fun item => item.chars.map .char) := by
  rw [Tree.chars, inBrackets, ← itemChars_commas]
  simp

theorem object_written (members : List (String × Tree)) :
    (Tree.object members).chars.map .char = inBraces (members.map memberText) := by
  rw [Tree.chars, inBraces, ← memberChars_commas]
  simp

theorem names_written (key : String) : Names ((writeText key ++ [':']).map .char) key := by
  obtain ⟨skipped, held⟩ := text_written key [.char ':']
  refine ⟨_, _, ?_, skipped, rfl, held⟩
  rw [writeText, List.cons_append, List.map_cons, skipBlank_visible '\x22' _ (by decide)]
  simp

theorem spells_written_text (depth : Nat) (value : String) :
    Spells depth ((writeText value).map .char) (.text value) := by
  obtain ⟨skipped, held⟩ := text_written value []
  have visible : skipBlank ((writeText value).map .char) = (writeText value).map .char :=
    skipBlank_visible '\x22' _ (by decide)
  have quoted : (writeText value).map Piece.char =
      .char '\x22' :: ((value.toList.flatMap escapedChar).map .char ++ [.char '\x22']) := by
    simp [writeText]
  have read : Document.read ((writeText value).map .char) = (.text (.ok value), []) := by
    refine Takes.read ?_
    rw [visible, quoted]
    exact .text _ [] value skipped held
  exact (spells_read ⟨[], read, rfl⟩).mpr rfl

mutual

/-- A tree is spelled by what is written for it. -/
theorem spells_written : (tree : Tree) → (depth : Nat) → tree.fits depth = true →
    Spells depth (tree.chars.map .char) tree
  | .null, _, _ => (spells_read ⟨[], rfl, rfl⟩).mpr rfl
  | .bool true, _, _ => (spells_read ⟨[], rfl, rfl⟩).mpr rfl
  | .bool false, _, _ => (spells_read ⟨[], rfl, rfl⟩).mpr rfl
  | .text value, depth, _ => spells_written_text depth value
  | .list items, depth, fits => by
      obtain ⟨deep, inside⟩ := Bool.and_eq_true _ _ ▸ fits
      rw [list_written]
      exact spells_brackets (depth - 1) _ items (enter_fits depth deep)
        (items_written items (depth - 1) inside)
  | .object members, depth, fits => by
      obtain ⟨deep, inside⟩ := Bool.and_eq_true _ _ ▸ fits
      rw [object_written]
      exact spells_braces (depth - 1) _ members (enter_fits depth deep)
        (members_written members (depth - 1) inside)

theorem items_written : (items : List Tree) → (depth : Nat) → Tree.itemsFit depth items = true →
    List.Forall₂ (Spells depth) (items.map fun item => item.chars.map .char) items
  | [], _, _ => .nil
  | item :: rest, depth, fits => by
      obtain ⟨first, others⟩ := Bool.and_eq_true _ _ ▸ fits
      exact .cons (spells_written item depth first) (items_written rest depth others)

theorem members_written : (members : List (String × Tree)) → (depth : Nat) →
    Tree.membersFit depth members = true →
      List.Forall₂ (SpellsMember depth) (members.map memberText) members
  | [], _, _ => .nil
  | (key, value) :: rest, depth, fits => by
      obtain ⟨first, others⟩ := Bool.and_eq_true _ _ ▸ fits
      have spells := spells_written value depth first
      have member := (spells_member _ _ key (names_written key) (spells_value spells)
        (key, value)).mpr ⟨rfl, spells⟩
      rw [← List.map_append] at member
      exact .cons member (members_written rest depth others)

end

/-- The text of a tree without numbers spells the tree. -/
theorem write_spells (tree : Tree) (fits : tree.fits depthLimit = true) :
    Spells depthLimit (pieces (bytes tree.write)) tree := by
  rw [pieces_bytes, ofText, Tree.write, String.toList_ofList]
  exact spells_written tree depthLimit fits

/-- What is written for a tree without numbers reads back as that tree, its members sorted. -/
theorem Tree.ofPieces_write (tree : Tree) (fits : tree.fits Document.depthLimit = true) :
    Tree.ofPieces (pieces (bytes tree.write)) = .ok tree.canonical := by
  obtain ⟨document, ⟨⟨blank, read, ends⟩, _⟩, whole⟩ := write_spells tree fits
  rw [Tree.ofPieces, read]
  refine (bind_ok _ _ _).mpr ⟨tree, whole, ?_⟩
  rw [endOfText, ends]
  rfl

end Entitlement.Json
