import Mathlib.Data.List.Perm.Basic
import Entitlement.Proofs.JsonText
import Entitlement.Proofs.Reordering

/-!
The order of members in a text. When the texts of the members of an object change places, the text
holds the object with its members in the new order. The order can be changed at any depth, and what
stands around it is left as it is.
-/

namespace Entitlement.Json

open Text Document

variable {depth : Nat}

/-- The members of objects change places in a text, of one object after the other. -/
inductive TextReordered : List Piece → List Piece → Prop
  | members (old new : List (List Piece))
      (each : ∀ text ∈ old, ∃ member, AloneMember text member) (order : old.Perm new) :
      TextReordered (inBraces old) (inBraces new)
  | item (before after : List (List Piece)) (old new : List Piece)
      (each : ∀ text ∈ before ++ old :: after, ∃ document, Alone text document)
      (inside : TextReordered old new) :
      TextReordered (inBrackets (before ++ old :: after)) (inBrackets (before ++ new :: after))
  | member (before after : List (List Piece)) (front old new : List Piece) (key : String)
      (each : ∀ text ∈ before ++ after, ∃ member, AloneMember text member)
      (named : Names front key) (value : ∃ document, Alone old document)
      (inside : TextReordered old new) :
      TextReordered (inBraces (before ++ (front ++ old) :: after))
        (inBraces (before ++ (front ++ new) :: after))
  | spaced (before after old new : List Piece) (value : ∃ document, Alone old document)
      (blank : skipBlank before = []) (alsoBlank : skipBlank after = [])
      (inside : TextReordered old new) :
      TextReordered (before ++ old ++ after) (before ++ new ++ after)
  | trans (first middle last : List Piece) (one : TextReordered first middle)
      (other : TextReordered middle last) : TextReordered first last

/-- A text with members in another order spells the tree with its members in that order. -/
theorem TextReordered.spells {old new : List Piece} (reordered : TextReordered old new)
    (tree : Tree) (spells : Spells depth old tree) :
    ∃ other, tree.Reordered other ∧ Spells depth new other := by
  induction reordered generalizing depth tree with
  | members old new each order =>
      obtain ⟨inner, members, entered, rfl, parts⟩ := spells_members old each tree spells
      obtain ⟨others, alsoParts, alsoOrder⟩ := List.perm_comp_forall₂ order.symm parts
      exact ⟨.object others, .members members others alsoOrder.symm,
        spells_braces inner new others entered alsoParts⟩
  | item before after old new each _ ih =>
      obtain ⟨inner, trees, entered, rfl, parts⟩ := spells_items _ each tree spells
      obtain ⟨front, value, back, rfl, ones, middle, others⟩ :=
        forall₂_middle before after old trees parts
      obtain ⟨other, order, alsoMiddle⟩ := ih value middle
      exact ⟨_, .item front back value other order, spells_brackets inner _ _ entered
        (List.rel_append ones (.cons alsoMiddle others))⟩
  | member before after front old new key each named value _ ih =>
      obtain ⟨document, alone⟩ := value
      have members : ∀ text ∈ before ++ (front ++ old) :: after,
          ∃ member, AloneMember text member := by
        intro text present
        rcases List.mem_append.mp present with early | late
        · exact each text (List.mem_append_left _ early)
        rcases List.mem_cons.mp late with rfl | late
        · exact ⟨(.ok key, document), front, old, key, rfl, named, rfl, alone⟩
        · exact each text (List.mem_append_right _ late)
      obtain ⟨inner, trees, entered, rfl, parts⟩ := spells_members _ members tree spells
      obtain ⟨ahead, ⟨name, held⟩, back, rfl, ones, middle, others⟩ :=
        forall₂_middle before after _ trees parts
      obtain ⟨rfl, middle⟩ := (spells_member front old key named ⟨_, alone⟩ _).mp middle
      obtain ⟨other, order, alsoMiddle⟩ := ih held middle
      have alsoMember := (spells_member front new _ named (spells_value alsoMiddle)
        (name, other)).mpr ⟨rfl, alsoMiddle⟩
      exact ⟨_, .member ahead back name held other order, spells_braces inner _ _ entered
        (List.rel_append ones (.cons alsoMember others))⟩
  | spaced before after old new value blank alsoBlank _ ih =>
      rw [spells_spaced before old after value blank alsoBlank] at spells
      obtain ⟨other, order, alsoSpells⟩ := ih tree spells
      exact ⟨other, order, (spells_spaced before new after (spells_value alsoSpells) blank
        alsoBlank other).mpr alsoSpells⟩
  | trans first middle last _ _ ih alsoIh =>
      obtain ⟨other, one, spells⟩ := ih tree spells
      obtain ⟨another, two, spells⟩ := alsoIh other spells
      exact ⟨another, .trans tree other another one two, spells⟩

/-- What is written for an object may be written with its members in any order. -/
theorem written_reordered (old new : List (String × Tree))
    (fits : (Tree.object old).fits depth = true) (order : old.Perm new) :
    TextReordered (pieces (bytes (Tree.object old).write))
      (pieces (bytes (Tree.object new).write)) := by
  have written (members : List (String × Tree)) :
      pieces (bytes (Tree.object members).write) = inBraces (members.map memberText) := by
    rw [pieces_bytes, ofText, Tree.write, String.toList_ofList, object_written]
  rw [written, written]
  refine .members _ _ (fun text present => ?_) (order.map _)
  obtain ⟨_, inside⟩ := Bool.and_eq_true _ _ ▸ fits
  obtain ⟨_, _, member, alone, _⟩ :=
    forall₂_right (members_written old _ inside).flip text present
  exact ⟨member, alone⟩

end Entitlement.Json
