import Mathlib.Data.List.Nodup
import Entitlement.Proofs.RoundTrip

/-!
What a reader does not see: members that a record has no field for, and null under the name of a
field that may be missing. With or without them, and however deep in a tree they stand, the same is
read or the same fault is found.
-/

namespace Entitlement.Record

open Json

variable {α β : Type} {types : List Type}

inductive Fields.Has : {types : List Type} → Fields types → String →
    {β : Type} → Codec β → Absence β → Prop
  | first {β : Type} {types : List Type} (name : String) (codec : Codec β) (absence : Absence β)
      (rest : Fields types) : Has (.field name codec absence rest) name codec absence
  | later {α β : Type} {types : List Type} {key : String} {codec : Codec β} {absence : Absence β}
      {rest : Fields types} (name : String) (other : Codec α) (otherAbsence : Absence α)
      (held : Has rest key codec absence) :
      Has (.field name other otherAbsence rest) key codec absence

inductive Codec.HasField : {α : Type} → Codec α → String → {β : Type} → Codec β → Absence β → Prop
  | record {α β : Type} {types : List Type} {fields : Fields types} {key : String}
      {codec : Codec β} {absence : Absence β} (name : String) (build : Row types → α)
      (parts : α → Row types) (held : fields.Has key codec absence) :
      HasField (.record name fields build parts) key codec absence
  | own {α β : Type} {own inner : List Type} {ownFields : Fields own} {key : String}
      {codec : Codec β} {absence : Absence β} (name : String) (innerFields : Fields inner)
      (build : Row own → Row inner → α) (parts : α → Row own × Row inner)
      (held : ownFields.Has key codec absence) :
      HasField (.flattened name ownFields innerFields build parts) key codec absence
  | inner {α β : Type} {own inner : List Type} {innerFields : Fields inner} {key : String}
      {codec : Codec β} {absence : Absence β} (name : String) (ownFields : Fields own)
      (build : Row own → Row inner → α) (parts : α → Row own × Row inner)
      (held : innerFields.Has key codec absence) :
      HasField (.flattened name ownFields innerFields build parts) key codec absence

def Codec.fieldNames? : {α : Type} → Codec α → Option (List String)
  | _, .record _ fields _ _ => some fields.names
  | _, .flattened _ ownFields innerFields _ _ => some (innerFields.names ++ ownFields.names)
  | _, _ => none

/-- The second tree has one member more than the first, in a record at some depth: one without a
field, or null for a field that was missing. -/
inductive Codec.Grows : {α : Type} → Codec α → Tree → Tree → Prop
  | unknown {α : Type} {codec : Codec α} {names : List String} {key : String}
      (isRecord : codec.fieldNames? = some names) (unknown : key ∉ names) (added : Tree)
      (before after : List (String × Tree)) :
      Grows codec (.object (before ++ after)) (.object (before ++ (key, added) :: after))
  | unset {α β : Type} {codec : Codec α} {inner : Codec β} {absence : Absence (Option β)}
      {key : String} (held : codec.HasField key inner.option absence)
      (before after : List (String × Tree))
      (missing : ∀ member ∈ before ++ after, member.1 ≠ key) :
      Grows codec (.object (before ++ after)) (.object (before ++ (key, .null) :: after))
  | field {α β : Type} {codec : Codec α} {inner : Codec β} {absence : Absence β} {key : String}
      {old new : Tree} (held : codec.HasField key inner absence)
      (before after : List (String × Tree)) (deeper : Grows inner old new) :
      Grows codec (.object (before ++ (key, old) :: after))
        (.object (before ++ (key, new) :: after))
  | option {α : Type} {codec : Codec α} {old new : Tree} (deeper : Grows codec old new) :
      Grows codec.option old new
  | item {α : Type} {codec : Codec α} {old new : Tree} (before after : List Tree)
      (deeper : Grows codec old new) :
      Grows codec.list (.list (before ++ old :: after)) (.list (before ++ new :: after))
  | entry {α : Type} {codec : Codec α} {old new : Tree} (key : String)
      (before after : List (String × Tree)) (deeper : Grows codec old new) :
      Grows codec.dict (.object (before ++ (key, old) :: after))
        (.object (before ++ (key, new) :: after))
  | via {α β : Type} {codec : Codec α} {old new : Tree} (build : α → β) (parts : β → α)
      (deeper : Grows codec old new) : Grows (codec.via build parts) old new

-- Fields

namespace Fields.Has

variable {fields : Fields types} {key : String} {codec : Codec β} {absence : Absence β}

theorem named (held : fields.Has key codec absence) : key ∈ fields.names := by
  induction held with
  | first => exact List.mem_cons_self
  | later name other otherAbsence held ih => exact List.mem_cons_of_mem _ ih

theorem lawful (held : fields.Has key codec absence) (each : fields.Lawful) : codec.Lawful := by
  induction held with
  | first =>
      cases each with
      | field value absent others => exact value
  | later name other otherAbsence held ih =>
      cases each with
      | field value absent others => exact ih others

theorem absent (held : fields.Has key codec absence) (each : fields.Lawful) :
    absence.Lawful codec := by
  induction held with
  | first =>
      cases each with
      | field value absent others => exact absent
  | later name other otherAbsence held ih =>
      cases each with
      | field value absent others => exact ih others

theorem attempt (held : fields.Has key codec absence) (source : Source Tree) (tree : Tree)
    (once : fields.names.Nodup) :
    fields.attempt source key tree = (codec.decode source tree).map fun _ => () := by
  induction held with
  | first => exact attempt_first
  | @later _ _ _ key codec absence rest name other otherAbsence held ih =>
      rw [names, List.nodup_cons] at once
      have different : key ≠ name := fun same => once.1 (same ▸ held.named)
      rw [attempt_later different, ih once.2]

/-- Two objects that differ under one name are gathered the same if its field is read the same. -/
theorem gather (held : fields.Has key codec absence) (source : Source Tree)
    (left right : List (String × Tree)) (once : fields.names.Nodup)
    (agree : ∀ name, name ≠ key → memberOf name left = memberOf name right)
    (same : gatherField source key codec absence (memberOf key left) =
      gatherField source key codec absence (memberOf key right)) :
    fields.gather source left = fields.gather source right := by
  induction held with
  | first name codec absence rest =>
      rw [names, List.nodup_cons] at once
      rw [Fields.gather, Fields.gather, same,
        gather_congr source rest left right fun other present =>
          agree other fun hit => once.1 (hit ▸ present)]
  | later name other otherAbsence held ih =>
      rw [names, List.nodup_cons] at once
      rw [Fields.gather, Fields.gather, agree name fun hit => once.1 (hit ▸ held.named),
        ih once.2 agree same]

end Fields.Has

theorem member_between (key name : String) (tree : Tree) (front back : List (String × Tree))
    (different : name ≠ key) :
    memberOf name (front ++ (key, tree) :: back) = memberOf name (front ++ back) := by
  rw [member_append, member_append, memberOf, if_neg different]

theorem member_placed (key : String) (tree : Tree) (front back : List (String × Tree))
    (distinct : ((front ++ (key, tree) :: back).map (·.1)).Nodup) :
    memberOf key (front ++ (key, tree) :: back) = some tree ∧
      memberOf key (front ++ back) = none := by
  refine ⟨member_of_mem (key, tree) _ distinct (by simp), ?_⟩
  rw [List.map_append, List.map_cons, List.nodup_middle, List.nodup_cons, ← List.map_append]
    at distinct
  exact member_fresh key _ distinct.1

theorem distinct_without (key : String) (tree : Tree) (front back : List (String × Tree))
    (distinct : ((front ++ (key, tree) :: back).map (·.1)).Nodup) :
    ((front ++ back).map (·.1)).Nodup := by
  refine distinct.sublist (List.Sublist.map _ ?_)
  exact (List.Sublist.refl front).append (List.sublist_cons_self _ back)

namespace Fields

variable (fields : Fields types) (source : Source Tree) (key : String)
  (front back : List (String × Tree)) (once : fields.names.Nodup)

include once

theorem read_passed (tree : Tree) (distinct : ((front ++ (key, tree) :: back).map (·.1)).Nodup)
    (unknown : key ∉ fields.names) :
    fields.read source (front ++ (key, tree) :: back) = fields.read source (front ++ back) := by
  rw [read_eq source fields _ distinct once,
    read_eq source fields _ (distinct_without key tree front back distinct) once,
    attempts_append, attempts_append, attempts, attempt_unknown source fields key tree unknown,
    gather_congr source fields _ (front ++ back) fun name present =>
      member_between key name tree front back fun same => unknown (same ▸ present)]
  rfl

theorem read_replaced {codec : Codec β} {absence : Absence β} (held : fields.Has key codec absence)
    (old new : Tree) (distinct : ((front ++ (key, old) :: back).map (·.1)).Nodup)
    (same : codec.decode source new = codec.decode source old) :
    fields.read source (front ++ (key, new) :: back) =
      fields.read source (front ++ (key, old) :: back) := by
  have alsoDistinct : ((front ++ (key, new) :: back).map (·.1)).Nodup := by
    rw [List.map_append, List.map_cons] at distinct ⊢
    exact distinct
  have gathered := held.gather source (front ++ (key, new) :: back) (front ++ (key, old) :: back)
    once
    (fun name different => by
      rw [member_between key name new front back different,
        member_between key name old front back different])
    (by
      rw [(member_placed key new front back alsoDistinct).1,
        (member_placed key old front back distinct).1]
      exact same)
  rw [read_eq source fields _ alsoDistinct once, read_eq source fields _ distinct once,
    attempts_append, attempts_append, attempts, attempts, held.attempt source new once,
    held.attempt source old once, same, gathered]

theorem read_unset (reads : source.ReadsTrees) {inner : Codec β} {absence : Absence (Option β)}
    (held : fields.Has key inner.option absence) (each : fields.Lawful)
    (distinct : ((front ++ (key, Tree.null) :: back).map (·.1)).Nodup) :
    fields.read source (front ++ (key, .null) :: back) = fields.read source (front ++ back) := by
  obtain ⟨placed, without⟩ := member_placed key .null front back distinct
  have missing := null_missing reads inner.option absence (held.absent each) none
    (decode_null reads inner)
  have gathered := held.gather source (front ++ (key, .null) :: back) (front ++ back) once
    (fun name different => member_between key name .null front back different)
    (by
      rw [placed, without, gatherField, gatherField, missing]
      exact decode_null reads inner)
  rw [read_eq source fields _ distinct once,
    read_eq source fields _ (distinct_without key .null front back distinct) once,
    attempts_append, attempts_append, attempts, held.attempt source .null once,
    decode_null reads inner, gathered]
  rfl

end Fields

-- Records

theorem others_own (own : Fields types) (key : String) (tree : Tree)
    (front back : List (String × Tree)) (known : key ∈ own.names) :
    others own (front ++ (key, tree) :: back) = others own (front ++ back) := by
  rw [others, others, List.filter_append, List.filter_append, List.filter_cons_of_neg]
  simpa using known

theorem others_between (own : Fields types) (key : String) (tree : Tree)
    (front back : List (String × Tree)) (unknown : key ∉ own.names) :
    others own (front ++ (key, tree) :: back) =
      others own front ++ (key, tree) :: others own back := by
  rw [others, List.filter_append, List.filter_cons_of_pos]
  · rfl
  · simpa using unknown

section Members

variable {source : Source Tree} (reads : source.ReadsTrees) {codec : Codec α}
  (lawful : codec.Lawful) (key : String)

include reads lawful

/-- Objects that differ under an unknown name only are read the same. -/
theorem decode_unknown {names : List String} (isRecord : codec.fieldNames? = some names)
    (unknown : key ∉ names) (left right : List (String × Tree))
    (leftOnce : (left.map (·.1)).Nodup) (rightOnce : (right.map (·.1)).Nodup)
    (same : left.filter (fun member => member.1 != key) =
      right.filter fun member => member.1 != key) :
    codec.decode source (.object left) = codec.decode source (.object right) := by
  have kept : ∀ {types : List Type} (fields : Fields types), key ∉ fields.names →
      ∀ name ∈ fields.names, (name != key) = true := by
    intro types fields fresh name present
    exact bne_iff_ne.mpr fun hit => fresh (hit ▸ present)
  cases lawful with
  | record each once rebuilt retaken =>
      cases isRecord
      rw [decode_record source reads, decode_record source reads,
        ← Fields.read_filter source _ (· != key) left leftOnce once (kept _ unknown),
        ← Fields.read_filter source _ (· != key) right rightOnce once (kept _ unknown), same]
  | @flattened _ own inner name ownFields innerFields build parts each eachInner once =>
      cases isRecord
      obtain ⟨innerOnce, ownOnce, _⟩ := List.nodup_append.mp once
      rw [List.mem_append, not_or] at unknown
      have sameOthers : (others ownFields left).filter (fun member => member.1 != key) =
          (others ownFields right).filter fun member => member.1 != key := by
        rw [others, others, List.filter_comm, same, List.filter_comm]
      rw [decode_flattened source reads, decode_flattened source reads,
        ← Fields.read_filter source ownFields (· != key) left leftOnce ownOnce (kept _ unknown.2),
        ← Fields.read_filter source ownFields (· != key) right rightOnce ownOnce (kept _ unknown.2),
        same,
        ← Fields.read_filter _ innerFields (· != key) (others ownFields left)
          (others_distinct ownFields left leftOnce) innerOnce (kept _ unknown.1),
        ← Fields.read_filter _ innerFields (· != key) (others ownFields right)
          (others_distinct ownFields right rightOnce) innerOnce (kept _ unknown.1), sameOthers]
  | _ => cases isRecord

/-- A record reads the same if the tree of one of its fields does. -/
theorem decode_field {inner : Codec β} {absence : Absence β}
    (held : codec.HasField key inner absence) (old new : Tree) (front back : List (String × Tree))
    (distinct : ((front ++ (key, old) :: back).map (·.1)).Nodup)
    (same : ∀ source : Source Tree, source.ReadsTrees →
      inner.decode source new = inner.decode source old) :
    codec.decode source (.object (front ++ (key, new) :: back)) =
      codec.decode source (.object (front ++ (key, old) :: back)) := by
  have alsoDistinct : ((front ++ (key, new) :: back).map (·.1)).Nodup := by
    rw [List.map_append, List.map_cons] at distinct ⊢
    exact distinct
  cases held with
  | @record _ _ fields _ _ _ name build parts held =>
      cases lawful with
      | record each once rebuilt retaken =>
          rw [decode_record source reads, decode_record source reads,
            fields.read_replaced source key front back once held old new distinct
              (same source reads)]
  | @own _ _ _ ownFields _ _ _ name innerFields build parts held =>
      cases lawful with
      | flattened each eachInner once rebuilt retaken =>
          obtain ⟨_, ownOnce, _⟩ := List.nodup_append.mp once
          rw [decode_flattened source reads, decode_flattened source reads,
            ownFields.read_replaced source key front back ownOnce held old new distinct
              (same source reads),
            others_own ownFields key new front back held.named,
            others_own ownFields key old front back held.named]
  | @inner _ _ _ innerFields _ _ _ name ownFields build parts held =>
      cases lawful with
      | flattened each eachInner once rebuilt retaken =>
          obtain ⟨innerOnce, ownOnce, apart⟩ := List.nodup_append.mp once
          have fresh : key ∉ ownFields.names := fun known => apart key held.named key known rfl
          have distinctOthers := others_distinct ownFields _ distinct
          rw [others_between ownFields key old front back fresh] at distinctOthers
          rw [decode_flattened source reads, decode_flattened source reads,
            ownFields.read_passed source key front back ownOnce new alsoDistinct fresh,
            ownFields.read_passed source key front back ownOnce old distinct fresh,
            others_between ownFields key new front back fresh,
            others_between ownFields key old front back fresh,
            innerFields.read_replaced _ key _ _ innerOnce held old new distinctOthers
              (same _ Source.buffered_reads)]

/-- Null under the name of a field that may be missing is read as if it were not there. -/
theorem decode_unset {inner : Codec β} {absence : Absence (Option β)}
    (held : codec.HasField key inner.option absence)
    (front back : List (String × Tree))
    (distinct : ((front ++ (key, Tree.null) :: back).map (·.1)).Nodup) :
    codec.decode source (.object (front ++ (key, .null) :: back)) =
      codec.decode source (.object (front ++ back)) := by
  cases held with
  | @record _ _ fields _ _ _ name build parts held =>
      cases lawful with
      | record each once rebuilt retaken =>
          rw [decode_record source reads, decode_record source reads,
            fields.read_unset source key front back once reads held each distinct]
  | @own _ _ _ ownFields _ _ _ name innerFields build parts held =>
      cases lawful with
      | flattened each eachInner once rebuilt retaken =>
          obtain ⟨_, ownOnce, _⟩ := List.nodup_append.mp once
          rw [decode_flattened source reads, decode_flattened source reads,
            ownFields.read_unset source key front back ownOnce reads held each distinct,
            others_own ownFields key .null front back held.named]
  | @inner _ _ _ innerFields _ _ _ name ownFields build parts held =>
      cases lawful with
      | flattened each eachInner once rebuilt retaken =>
          obtain ⟨innerOnce, ownOnce, apart⟩ := List.nodup_append.mp once
          have fresh : key ∉ ownFields.names := fun known => apart key held.named key known rfl
          have distinctOthers := others_distinct ownFields _ distinct
          rw [others_between ownFields key .null front back fresh] at distinctOthers
          have together : others ownFields (front ++ back) =
              others ownFields front ++ others ownFields back := List.filter_append ..
          rw [decode_flattened source reads, decode_flattened source reads,
            ownFields.read_passed source key front back ownOnce .null distinct fresh,
            others_between ownFields key .null front back fresh, together,
            innerFields.read_unset _ key _ _ innerOnce Source.buffered_reads held eachInner
              distinctOthers]

end Members

-- Trees

theorem Codec.HasField.lawful {codec : Codec α} {key : String} {inner : Codec β}
    {absence : Absence β} (held : codec.HasField key inner absence) (lawful : codec.Lawful) :
    inner.Lawful := by
  cases held with
  | record name build parts held =>
      cases lawful with
      | record each once rebuilt retaken => exact held.lawful each
  | own name innerFields build parts held =>
      cases lawful with
      | flattened each eachInner once rebuilt retaken => exact held.lawful each
  | inner name ownFields build parts held =>
      cases lawful with
      | flattened each eachInner once rebuilt retaken => exact held.lawful eachInner

def Codec.InsideLawful : {α : Type} → Codec α → Prop
  | _, .option codec => codec.Lawful
  | _, .list codec => codec.Lawful
  | _, .dict codec => codec.Lawful
  | _, .via codec _ _ => codec.Lawful
  | _, _ => True

-- Stated of any codec, because the type of a list does not tell the type of its items.
theorem Codec.Lawful.inside {codec : Codec α} (lawful : codec.Lawful) : codec.InsideLawful := by
  cases lawful with
  | option value solid => exact value
  | list item => exact item
  | dict entry => exact entry
  | via form rebuilt retaken => exact form
  | _ => trivial

-- Only lists and objects grow.
theorem Codec.Grows.present {codec : Codec α} {old new : Tree} (grows : codec.Grows old new) :
    old.canonical ≠ .null ∧ new.canonical ≠ .null := by
  induction grows with
  | option deeper ih => exact ih
  | via build parts deeper ih => exact ih
  | _ => exact ⟨nofun, nofun⟩

/-- One entry of an object is sorted to a place of its own, or is not seen at all. -/
theorem canonical_entry (key : String) (before after : List (String × Tree)) (old new : Tree) :
    (Tree.object (before ++ (key, new) :: after)).canonical =
        (Tree.object (before ++ (key, old) :: after)).canonical ∨
      ∃ front back,
        (Tree.object (before ++ (key, new) :: after)).canonical =
          .object (front ++ (key, new.canonical) :: back) ∧
        (Tree.object (before ++ (key, old) :: after)).canonical =
          .object (front ++ (key, old.canonical) :: back) ∧
        Ascending (front ++ (key, old.canonical) :: back) := by
  simp only [Tree.canonical_object, List.map_append, List.map_cons]
  by_cases again : ∃ entry ∈ after.map fun member => (member.1, member.2.canonical), entry.1 = key
  · left
    rw [sort_shadowed key _ _ _ again, sort_shadowed key _ _ _ again]
  · right
    obtain ⟨front, back, _, placed⟩ := sort_placed key
      (before.map fun member => (member.1, member.2.canonical))
      (after.map fun member => (member.1, member.2.canonical))
      fun entry present same => again ⟨entry, present, same⟩
    refine ⟨front, back, by rw [placed], by rw [placed], ?_⟩
    rw [← placed]
    exact ascending_sort _

/-- An entry under a new key is sorted to a place between the others. -/
theorem canonical_added (key : String) (tree : Tree) (before after : List (String × Tree))
    (missing : ∀ member ∈ before ++ after, member.1 ≠ key) :
    ∃ front back,
      (Tree.object (before ++ (key, tree) :: after)).canonical =
        .object (front ++ (key, tree.canonical) :: back) ∧
      (Tree.object (before ++ after)).canonical = .object (front ++ back) ∧
      Ascending (front ++ (key, tree.canonical) :: back) := by
  have unheld : ∀ entry ∈ (before ++ after).map fun member => (member.1, member.2.canonical),
      entry.1 ≠ key := by
    intro entry present same
    obtain ⟨member, among, rfl⟩ := List.mem_map.mp present
    exact missing member among same
  rw [List.map_append] at unheld
  obtain ⟨front, back, rest, placed⟩ := sort_placed key _ _
    fun entry present => unheld entry (List.mem_append_right _ present)
  rw [List.filter_eq_self.mpr fun entry present => bne_iff_ne.mpr (unheld entry present)] at rest
  simp only [Tree.canonical_object, List.map_append, List.map_cons]
  refine ⟨front, back, by rw [placed], by rw [rest], ?_⟩
  rw [← placed]
  exact ascending_sort _

/-- A tree that grows is read as before. -/
theorem Codec.Grows.unseen {codec : Codec α} {old new : Tree} (grows : codec.Grows old new)
    (lawful : codec.Lawful) : ∀ source : Source Tree, source.ReadsTrees →
      codec.decode source new.canonical = codec.decode source old.canonical := by
  induction grows with
  | @unknown _ codec names key isRecord unknown added before after =>
      intro source reads
      rw [Tree.canonical_object, Tree.canonical_object]
      refine decode_unknown reads lawful key isRecord unknown _ _
        (sort_distinct _) (sort_distinct _) ?_
      rw [← sort_filter (· != key), ← sort_filter (· != key)]
      simp [List.filter_append]
  | @unset _ _ codec inner absence key held before after missing =>
      intro source reads
      obtain ⟨front, back, withNull, without, sorted⟩ :=
        canonical_added key .null before after missing
      rw [withNull, without]
      exact decode_unset reads lawful key held front back (ascending_nodup _ sorted)
  | @field _ _ codec inner absence key old new held before after deeper ih =>
      intro source reads
      rcases canonical_entry key before after old new with
        same | ⟨front, back, ofNew, ofOld, sorted⟩
      · rw [same]
      · rw [ofNew, ofOld]
        exact decode_field reads lawful key held _ _ front back (ascending_nodup _ sorted)
          (ih (held.lawful lawful))
  | @option _ codec old new deeper ih =>
      intro source reads
      obtain ⟨oldPresent, newPresent⟩ := deeper.present
      rw [decode_present reads _ codec newPresent, decode_present reads _ codec oldPresent,
        ih lawful.inside source reads]
  | @item _ codec old new before after deeper ih =>
      intro source reads
      rw [Tree.canonical_list, Tree.canonical_list, decode_items reads, decode_items reads]
      simp only [List.map_append, List.map_cons, List.mapM_append, List.mapM_cons,
        ih lawful.inside source reads]
  | @entry _ codec old new key before after deeper ih =>
      intro source reads
      rcases canonical_entry key before after old new with same | ⟨front, back, ofNew, ofOld, _⟩
      · rw [same]
      · rw [ofNew, ofOld, decode_entries reads, decode_entries reads]
        simp only [readEntries, List.foldlM_append, List.foldlM_cons,
          ih lawful.inside source reads]
  | @via _ _ codec old new build parts deeper ih =>
      intro source reads
      rw [decode_via, decode_via, ih lawful.inside source reads]

end Entitlement.Record
