import Entitlement.Proofs.Lawful

/-!
Reading undoes writing. The members of a record are found again by name, and what is not written is
what stands for a field that is not there.
-/

namespace Entitlement.Record

open Json

variable {α : Type} {types : List Type}

/-- The tree of a value that is not optional is not null. -/
theorem Codec.encode_present : {α : Type} → (codec : Codec α) → codec.takesNull = false →
    (value : α) → (codec.encode value).canonical ≠ .null
  | _, .text, _, _ => nofun
  | _, .bool, _, _ => nofun
  | _, .int64, _, _ => nofun
  | _, .uint32, _, _ => nofun
  | _, .uint64, _, _ => nofun
  | _, .option _, taken, _ => nomatch taken
  | _, .list _, _, _ => nofun
  | _, .dict _, _, _ => nofun
  | _, .choice _ _, _, _ => nofun
  | _, .boolOrText _, _, .inl _ => nofun
  | _, .boolOrText _, _, .inr _ => nofun
  | _, .via codec _ parts, solid, value => codec.encode_present solid (parts value)
  | _, .record _ _ _ _, _, _ => nofun
  | _, .flattened _ _ _ _ _, _, _ => nofun

namespace Fields

/-- Fields are written under their names, each at most once. -/
theorem members_named (fields : Fields types) (row : Row types) :
    ((fields.members row).map (·.1)).Sublist fields.names := by
  induction fields with
  | nil => exact List.Sublist.refl []
  | field name codec absence rest ih =>
      obtain ⟨value, row⟩ := row
      rw [members, names]
      cases absence.isHidden value with
      | true => exact (ih row).cons name
      | false => exact (ih row).cons_cons name

theorem members_unknown (fields : Fields types) (row : Row types) (name : String)
    (unknown : name ∉ fields.names) : memberOf name (fields.members row) = none :=
  member_fresh name _ fun present => unknown ((fields.members_named row).subset present)

theorem members_first (name : String) (codec : Codec α) (absence : Absence α)
    (rest : Fields types) (value : α) (row : Row types) (fresh : name ∉ rest.names) :
    memberOf name ((field name codec absence rest).members (value, row)) =
      if absence.isHidden value then none else some (codec.encode value) := by
  rw [members]
  cases absence.isHidden value with
  | true => exact rest.members_unknown row name fresh
  | false => exact if_pos rfl

theorem members_later (name key : String) (codec : Codec α) (absence : Absence α)
    (rest : Fields types) (value : α) (row : Row types) (different : key ≠ name) :
    memberOf key ((field name codec absence rest).members (value, row)) =
      memberOf key (rest.members row) := by
  rw [members]
  cases absence.isHidden value with
  | true => rfl
  | false => exact if_neg different

end Fields

theorem hidden_missing (codec : Codec α) (absence : Absence α) (lawful : absence.Lawful codec)
    (value : α) (hidden : absence.isHidden value = true) : absence.inObject = some value := by
  cases lawful with
  | required => cases hidden
  | nullable => cases hidden
  | optional codec =>
      rw [Option.isNone_iff_eq_none.mp hidden]
      rfl
  | default => cases hidden

theorem null_refused {source : Source Tree} (reads : source.ReadsTrees) :
    {α : Type} → (codec : Codec α) → codec.takesNull = false → (value : α) →
      codec.decode source .null ≠ .ok value
  | _, .text, _, value => fun read => nomatch (decode_text reads _ value).mp read
  | _, .bool, _, value => fun read => nomatch (decode_bool reads _ value).mp read
  | _, .int64, _, value => fun read => nomatch (decode_int64 reads _ value).mp read
  | _, .uint32, _, value => fun read => nomatch (decode_uint32 reads _ value).mp read
  | _, .uint64, _, value => fun read => nomatch (decode_uint64 reads _ value).mp read
  | _, .option _, taken, _ => nomatch taken
  | _, .via codec _ _, solid, _ => fun read => by
      rw [decode_via] at read
      cases inner : codec.decode source .null with
      | error fault =>
          rw [inner] at read
          cases read
      | ok value => exact null_refused reads codec solid value inner
  | _, .choice _ _, _, _ => by
      cases reads
      exact nofun
  | _, .boolOrText _, _, _ => by
      cases reads
      exact nofun
  | _, .list _, _, _ => by
      cases reads
      exact nofun
  | _, .dict _, _, _ => by
      cases reads
      exact nofun
  | _, .record _ _ _ _, _, _ => by
      cases reads
      exact nofun
  | _, .flattened _ _ _ _ _, _, _ => by
      cases reads
      exact nofun

/-- Null is read as what a missing field is. -/
theorem null_missing {source : Source Tree} (reads : source.ReadsTrees) (codec : Codec α)
    (absence : Absence α) (lawful : absence.Lawful codec) (value : α)
    (read : codec.decode source .null = .ok value) : absence.inObject = some value := by
  cases lawful with
  | required solid => exact absurd read (null_refused reads codec solid value)
  | nullable codec =>
      rw [← Except.ok.inj ((decode_null reads codec).symm.trans read)]
      rfl
  | optional codec =>
      rw [← Except.ok.inj ((decode_null reads codec).symm.trans read)]
      rfl
  | default solid filling empty => exact absurd read (null_refused reads codec solid value)

/-- The members of a written record by name. -/
theorem member_written (members : List (String × Tree)) (distinct : (members.map (·.1)).Nodup)
    (name : String) :
    memberOf name (sortMembers (members.map fun member => (member.1, member.2.canonical))) =
      (memberOf name members).map Tree.canonical := by
  rw [member_sort_distinct, member_map]
  rwa [List.map_map]

mutual

theorem Codec.decode_encode {source : Source Tree} (reads : source.ReadsTrees) :
    {α : Type} → {codec : Codec α} → codec.Lawful → (value : α) →
      codec.decode source (codec.encode value).canonical = .ok value
  | _, _, .text, value => (decode_text reads _ value).mpr rfl
  | _, _, .bool, value => (decode_bool reads _ value).mpr rfl
  | _, _, .int64, value => (decode_int64 reads _ value).mpr rfl
  | _, _, .uint32, value => (decode_uint32 reads _ value).mpr rfl
  | _, _, .uint64, value => (decode_uint64 reads _ value).mpr rfl
  | _, .option codec, .option inner solid, none => decode_null reads codec
  | _, .option codec, .option inner solid, some value => by
      have present := codec.encode_present solid value
      have read := Codec.decode_encode reads inner value
      exact (decode_present reads _ codec present).trans (by rw [read]; rfl)
  | _, .list codec, .list item, values => by
      rw [Codec.encode, Tree.canonical_list, decode_list reads, List.map_map]
      refine ⟨_, rfl, List.forall₂_map_left_iff.mpr (List.forall₂_same.mpr fun value _ => ?_)⟩
      exact Codec.decode_encode reads item value
  | _, .dict codec, .dict entry, dict => by
      rw [decode_dict reads _ codec dict (Tree.canonical_sorted _), Codec.encode,
        Tree.canonical_object, List.map_map, sort_ascending]
      · refine ⟨_, rfl, List.forall₂_map_left_iff.mpr (List.forall₂_same.mpr fun held _ => ?_)⟩
        exact ⟨rfl, Codec.decode_encode reads entry held.2⟩
      · exact ascending_map (fun value => (codec.encode value).canonical) _ dict.ascending
  | _, .choice known name, .choice found, value =>
      (decode_choice reads _ known name value fun _ => Tree.noConfusion).mpr
        ⟨name value, rfl, found value⟩
  | _, _, .boolOrText name, .inl value => (decode_boolOrText reads _ name (.inl value)).mpr rfl
  | _, _, .boolOrText name, .inr value => (decode_boolOrText reads _ name (.inr value)).mpr rfl
  | _, .via codec build parts, .via form rebuilt retaken, value => by
      rw [decode_via, Codec.encode, Codec.decode_encode reads form (parts value)]
      exact congrArg Except.ok (rebuilt value)
  | _, .record name fields build parts, .record each named rebuilt retaken, value => by
      have distinct := named.sublist (fields.members_named (parts value))
      have gathered := Fields.gather_encoded reads each named (parts value) _
        fun name _ => member_written _ distinct name
      rw [Codec.encode, Tree.canonical_object,
        record_ok source reads name fields build parts named _ (sort_distinct _)]
      exact ⟨parts value, gathered, rebuilt value⟩
  | _, .flattened name ownFields innerFields build parts,
      .flattened each eachInner named rebuilt retaken, value => by
      obtain ⟨innerNamed, ownNamed, apart⟩ := List.nodup_append.mp named
      have distinct := named.sublist <| List.map_append ▸
        (innerFields.members_named (parts value).2).append
          (ownFields.members_named (parts value).1)
      have ownRow := Fields.gather_encoded reads each ownNamed (parts value).1 _
        fun name present => by
          rw [member_written _ distinct, member_append, innerFields.members_unknown _ name
            fun inside => apart name inside name present rfl, Option.none_or]
      have innerRow := Fields.gather_encoded Source.buffered_reads eachInner innerNamed
        (parts value).2 _ fun name present => by
          rw [member_written _ distinct, member_append, ownFields.members_unknown _ name
            fun inside => apart name present name inside rfl, Option.or_none]
      rw [Codec.encode, Tree.canonical_object, flattened_ok source reads name ownFields innerFields
        build parts named _ (sort_distinct _)]
      exact ⟨(parts value).1, ownRow, (parts value).2, innerRow, rebuilt value⟩

theorem Fields.gather_encoded {source : Source Tree} (reads : source.ReadsTrees) :
    {types : List Type} → {fields : Fields types} → fields.Lawful → fields.names.Nodup →
      (row : Row types) → (members : List (String × Tree)) →
      (∀ name ∈ fields.names,
        memberOf name members = (memberOf name (fields.members row)).map Tree.canonical) →
      fields.gather source members = .ok row
  | _, _, .nil, _, _, _, _ => rfl
  | _, .field name codec absence rest, .field value absent others, named, (first, row), members,
      held => by
      rw [Fields.names, List.nodup_cons] at named
      refine (Fields.gather_field ..).mpr ⟨?head, ?tail⟩
      case head =>
        rw [held name List.mem_cons_self, Fields.members_first name codec absence rest first row
          named.1]
        cases hidden : absence.isHidden first with
        | true =>
            rw [if_pos rfl, Option.map_none, Fields.gatherField,
              hidden_missing codec absence absent first hidden]
            rfl
        | false => exact Codec.decode_encode reads value first
      case tail =>
        refine Fields.gather_encoded reads others named.2 row members fun other present => ?_
        have different : other ≠ name := fun same => named.1 (same ▸ present)
        rw [held other (List.mem_cons_of_mem _ present),
          Fields.members_later name other codec absence rest first row different]

end

end Entitlement.Record
