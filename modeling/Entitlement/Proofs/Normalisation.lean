import Entitlement.Proofs.RoundTrip

/-!
Writing what was read only normalises. What is written differs from the tree that was read in the
members of records alone: those without a field are gone, and so is null where an unset field is
skipped; a field that was missing is there with its empty value.
-/

namespace Entitlement.Record

open Json

variable {α : Type} {types : List Type}

def Absence.isSkipped (absence : Absence α) : Bool := absence.inObject.any absence.isHidden

def isUnset : Tree → Bool
  | .null => true
  | _ => false

def Fields.skipped : {types : List Type} → Fields types → List String
  | _, .nil => []
  | _, .field name _ absence rest =>
      if absence.isSkipped then name :: rest.skipped else rest.skipped

def Fields.filled (members : List (String × Tree)) :
    {types : List Type} → Fields types → List (String × Tree)
  | _, .nil => []
  | _, .field name codec absence rest =>
      match memberOf name members, absence.inObject with
      | none, some value =>
          if absence.isHidden value then rest.filled members
          else (name, codec.encode value) :: rest.filled members
      | _, _ => rest.filled members

/-- The members of an object that are kept, each changed by itself, and those that are added. -/
def rewritten (kept : String → Tree → Option Tree) (added members : List (String × Tree)) : Tree :=
  .object (sortMembers
    (members.filterMap (fun member => (kept member.1 member.2).map (member.1, ·)) ++ added))

mutual

/-- The tree that comes back when a tree is read and written again. -/
def Codec.normal : {α : Type} → Codec α → Tree → Tree
  | _, .option codec, tree => codec.normal tree
  | _, .via codec _ _, tree => codec.normal tree
  | _, .list codec, tree => match tree with
      | .list items => .list (items.map codec.normal)
      | tree => tree
  | _, .dict codec, tree => match tree with
      | .object members => .object (members.map fun member => (member.1, codec.normal member.2))
      | tree => tree
  | _, .record _ fields _ _, tree => match tree with
      | .object members => rewritten fields.kept (fields.filled members) members
      | tree => tree
  | _, .flattened _ ownFields innerFields _ _, tree => match tree with
      | .object members =>
          rewritten (fun key tree => (innerFields.kept key tree).or (ownFields.kept key tree))
            (innerFields.filled members ++ ownFields.filled members) members
      | tree => tree
  | _, .text, tree => tree
  | _, .bool, tree => tree
  | _, .int64, tree => tree
  | _, .uint32, tree => tree
  | _, .uint64, tree => tree
  | _, .choice _ _, tree => tree
  | _, .boolOrText _, tree => tree

def Fields.kept : {types : List Type} → Fields types → String → Tree → Option Tree
  | _, .nil, _, _ => none
  | _, .field name codec absence rest, key, tree =>
      if key = name then
        if absence.isSkipped && isUnset tree then none else some (codec.normal tree)
      else rest.kept key tree

end

mutual

/-- Records are written as objects, not as lists, and named values as texts. -/
def Codec.isPlain : {α : Type} → Codec α → Tree → Bool
  | _, .option codec, tree => codec.isPlain tree
  | _, .via codec _ _, tree => codec.isPlain tree
  | _, .list codec, tree => match tree with
      | .list items => items.all codec.isPlain
      | _ => true
  | _, .dict codec, tree => match tree with
      | .object members => members.all fun member => codec.isPlain member.2
      | _ => true
  | _, .choice _ _, tree => match tree with
      | .object _ => false
      | _ => true
  | _, .record _ fields _ _, tree => match tree with
      | .object members => members.all fun member => fields.isPlain member.1 member.2
      | .list _ => false
      | _ => true
  | _, .flattened _ ownFields innerFields _ _, tree => match tree with
      | .object members => members.all fun member =>
          ownFields.isPlain member.1 member.2 && innerFields.isPlain member.1 member.2
      | _ => true
  | _, .text, _ => true
  | _, .bool, _ => true
  | _, .int64, _ => true
  | _, .uint32, _ => true
  | _, .uint64, _ => true
  | _, .boolOrText _, _ => true

def Fields.isPlain : {types : List Type} → Fields types → String → Tree → Bool
  | _, .nil, _, _ => true
  | _, .field name codec _ rest, key, tree =>
      if key = name then codec.isPlain tree else rest.isPlain key tree

end

/-- The members that are written although an object lacks them. -/
def Codec.added (members : List (String × Tree)) : {α : Type} → Codec α → List (String × Tree)
  | _, .record _ fields _ _ => fields.filled members
  | _, .flattened _ ownFields innerFields _ _ =>
      innerFields.filled members ++ ownFields.filled members
  | _, _ => []

def Codec.skipped : {α : Type} → Codec α → List String
  | _, .record _ fields _ _ => fields.skipped
  | _, .flattened _ ownFields innerFields _ _ => innerFields.skipped ++ ownFields.skipped
  | _, _ => []

-- By name

theorem kept_named (kept : String → Tree → Option Tree) (members : List (String × Tree)) :
    ((members.filterMap fun member => (kept member.1 member.2).map (member.1, ·)).map
      (·.1)).Sublist (members.map (·.1)) := by
  induction members with
  | nil => exact List.Sublist.refl []
  | cons member rest ih =>
      rw [List.filterMap_cons, List.map_cons]
      cases kept member.1 member.2 with
      | none => exact ih.cons member.1
      | some left => exact ih.cons_cons member.1

theorem member_kept (kept : String → Tree → Option Tree) (members : List (String × Tree))
    (distinct : (members.map (·.1)).Nodup) (key : String) :
    memberOf key (members.filterMap fun member => (kept member.1 member.2).map (member.1, ·)) =
      (memberOf key members).bind (kept key) := by
  induction members with
  | nil => rfl
  | cons member rest ih =>
      obtain ⟨name, tree⟩ := member
      rw [List.map_cons, List.nodup_cons] at distinct
      have others := ih distinct.2
      by_cases hit : key = name
      · subst hit
        rw [member_fresh key rest distinct.1] at others
        cases left : kept key tree <;> simp [memberOf, left, others]
      · cases left : kept name tree <;> simp [memberOf, left, others, hit]

theorem filled_named (fields : Fields types) (members : List (String × Tree)) :
    ((fields.filled members).map (·.1)).Sublist fields.names := by
  induction fields with
  | nil => exact List.Sublist.refl []
  | field name codec absence rest ih =>
      rw [Fields.filled, Fields.names]
      split
      · next value _ _ =>
          cases absence.isHidden value with
          | true => exact ih.cons name
          | false => exact ih.cons_cons name
      · exact ih.cons name

theorem filled_absent (fields : Fields types) (members : List (String × Tree)) :
    ∀ member ∈ fields.filled members, memberOf member.1 members = none := by
  induction fields with
  | nil => exact fun _ present => absurd present List.not_mem_nil
  | field name codec absence rest ih =>
      rw [Fields.filled]
      split
      · next value missing _ =>
          cases absence.isHidden value with
          | true => exact ih
          | false => exact List.forall_mem_cons.mpr ⟨missing, ih⟩
      · exact ih

theorem filled_filter (fields : Fields types) (members : List (String × Tree)) :
    fields.filled members =
      (fields.filled []).filter fun member => (memberOf member.1 members).isNone := by
  induction fields with
  | nil => rfl
  | field name codec absence rest ih =>
      rw [Fields.filled, Fields.filled, ih]
      cases missing : absence.inObject with
      | none => cases memberOf name members <;> rfl
      | some value =>
          cases held : memberOf name members <;> cases hidden : absence.isHidden value <;>
            simp [memberOf, hidden, held]

theorem added_filter (codec : Codec α) (members : List (String × Tree)) :
    codec.added members =
      (codec.added []).filter fun member => (memberOf member.1 members).isNone := by
  cases codec with
  | record name fields build parts => exact filled_filter fields members
  | flattened name ownFields innerFields build parts =>
      rw [Codec.added, filled_filter innerFields, filled_filter ownFields, ← List.filter_append]
      rfl
  | _ => rfl

theorem filled_later (name key : String) (codec : Codec α) (absence : Absence α)
    (rest : Fields types) (members : List (String × Tree)) (different : key ≠ name) :
    memberOf key ((Fields.field name codec absence rest).filled members) =
      memberOf key (rest.filled members) := by
  rw [Fields.filled]
  split
  · next value _ _ =>
      cases absence.isHidden value with
      | true => rfl
      | false => exact if_neg different
  · rfl

theorem filled_first (name : String) (codec : Codec α) (absence : Absence α) (rest : Fields types)
    (members : List (String × Tree)) (value : α) (missing : absence.inObject = some value)
    (unheld : memberOf name members = none) (fresh : name ∉ rest.names) :
    memberOf name ((Fields.field name codec absence rest).filled members) =
      if absence.isHidden value then none else some (codec.encode value) := by
  have unfilled : memberOf name (rest.filled members) = none :=
    member_fresh name _ fun present => fresh ((filled_named rest members).subset present)
  rw [Fields.filled, missing, unheld]
  cases hidden : absence.isHidden value <;> simp [hidden, memberOf, unfilled]

/-- Two objects are the same if they hold the same by name. -/
theorem rewritten_eq (kept : String → Tree → Option Tree)
    (written added members : List (String × Tree)) (writtenOnce : (written.map (·.1)).Nodup)
    (addedOnce : (added.map (·.1)).Nodup) (distinct : (members.map (·.1)).Nodup)
    (missing : ∀ member ∈ added, memberOf member.1 members = none)
    (agree : ∀ key, (memberOf key written).map Tree.canonical =
      (memberOf key members).elim (memberOf key added) (kept key)) :
    (Tree.object written).canonical = rewritten kept added members := by
  have apart : ∀ tree key, memberOf key members = some tree → memberOf key added = none := by
    intro tree key held
    rw [member_absent]
    intro member present same
    rw [← same, missing member present] at held
    cases held
  have distinctAll : ((members.filterMap (fun member =>
      (kept member.1 member.2).map (member.1, ·)) ++ added).map (·.1)).Nodup := by
    rw [List.map_append, List.nodup_append]
    refine ⟨distinct.sublist (kept_named kept members), addedOnce, ?_⟩
    rintro key present _ addition rfl
    obtain ⟨member, inside, rfl⟩ := List.mem_map.mp addition
    have absent := (member_absent member.1 members).mp (missing member inside)
    obtain ⟨other, among, same⟩ :=
      List.mem_map.mp ((kept_named kept members).subset present)
    exact absent other among same
  rw [Tree.canonical_object, rewritten]
  refine congrArg Tree.object
    (ascending_ext _ _ (ascending_sort _) (ascending_sort _) fun key => ?_)
  rw [member_written _ writtenOnce, agree, member_sort_distinct _ _ distinctAll, member_append,
    member_kept kept members distinct]
  cases held : memberOf key members with
  | none => rfl
  | some tree =>
      rw [apart tree key held]
      exact Option.or_none.symm

/-- What a row is written as holds by name what is kept of some members or added to them. -/
def Fields.Rewrites (fields : Fields types) (members : List (String × Tree)) (row : Row types) :
    Prop :=
  ∀ key, (memberOf key (fields.members row)).map Tree.canonical =
    (memberOf key members).elim (memberOf key (fields.filled members)) (fields.kept key)

theorem record_rewritten (fields : Fields types) (named : fields.names.Nodup)
    (members : List (String × Tree)) (distinct : (members.map (·.1)).Nodup) (row : Row types)
    (rewrites : fields.Rewrites members row) :
    (Tree.object (fields.members row)).canonical =
      rewritten fields.kept (fields.filled members) members :=
  rewritten_eq fields.kept _ _ members (named.sublist (fields.members_named row))
    (named.sublist (filled_named fields members)) distinct (filled_absent fields members) rewrites

theorem flattened_rewritten {own inner : List Type} (ownFields : Fields own)
    (innerFields : Fields inner) (named : (innerFields.names ++ ownFields.names).Nodup)
    (members : List (String × Tree)) (distinct : (members.map (·.1)).Nodup) (row : Row own)
    (innerRow : Row inner) (rewrites : ownFields.Rewrites members row)
    (rewritesInner : innerFields.Rewrites members innerRow) :
    (Tree.object (innerFields.members innerRow ++ ownFields.members row)).canonical =
      rewritten (fun key tree => (innerFields.kept key tree).or (ownFields.kept key tree))
        (innerFields.filled members ++ ownFields.filled members) members := by
  refine rewritten_eq _ _ _ members ?written ?added distinct ?missing fun key => ?agree
  case written =>
    exact named.sublist <| List.map_append ▸
      (innerFields.members_named innerRow).append (ownFields.members_named row)
  case added =>
    exact named.sublist <| List.map_append ▸
      (filled_named innerFields members).append (filled_named ownFields members)
  case missing =>
    exact List.forall_mem_append.mpr
      ⟨filled_absent innerFields members, filled_absent ownFields members⟩
  case agree =>
    rw [member_append, Option.map_or, member_append, rewritesInner key, rewrites key]
    cases memberOf key members <;> rfl

-- Values

theorem hidden_unset {source : Source Tree} (reads : source.ReadsTrees) (codec : Codec α)
    (absence : Absence α) (lawful : absence.Lawful codec) (tree : Tree) (value : α)
    (decoded : codec.decode source tree = .ok value) :
    absence.isHidden value = (absence.isSkipped && isUnset tree) := by
  cases lawful with
  | required => rfl
  | nullable => rfl
  | default => rfl
  | optional codec =>
      by_cases unset : tree = .null
      · subst unset
        rw [decode_null reads] at decoded
        cases decoded
        rfl
      · rw [decode_present reads tree codec unset] at decoded
        cases inner : codec.decode source tree with
        | error fault =>
            rw [inner] at decoded
            cases decoded
        | ok value =>
            rw [inner] at decoded
            cases decoded
            cases tree with
            | null => exact absurd rfl unset
            | _ => rfl

/-- What is added to a record is null, an empty list or an empty map. -/
theorem filled_empty (codec : Codec α) (absence : Absence α) (lawful : absence.Lawful codec)
    (value : α) (missing : absence.inObject = some value) (shown : absence.isHidden value = false) :
    codec.encode value = .null ∨ codec.encode value = .list [] ∨
      codec.encode value = .object [] := by
  cases lawful with
  | required => cases missing
  | nullable =>
      cases missing
      exact .inl rfl
  | optional =>
      cases missing
      cases shown
  | default solid value empty =>
      cases missing
      exact .inr empty

theorem empty_canonical (tree : Tree) (empty : tree = .null ∨ tree = .list [] ∨ tree = .object []) :
    tree.canonical = tree := by
  rcases empty with rfl | rfl | rfl <;> rfl

theorem Codec.normal_null : {α : Type} → (codec : Codec α) → codec.normal .null = .null
  | _, .option codec => codec.normal_null
  | _, .via codec _ _ => codec.normal_null
  | _, .text => rfl
  | _, .bool => rfl
  | _, .int64 => rfl
  | _, .uint32 => rfl
  | _, .uint64 => rfl
  | _, .list _ => rfl
  | _, .dict _ => rfl
  | _, .choice _ _ => rfl
  | _, .boolOrText _ => rfl
  | _, .record _ _ _ _ => rfl
  | _, .flattened _ _ _ _ _ => rfl

theorem map_related {β γ : Type} {related : α → β → Prop} {before : α → γ} {after : β → γ}
    (items : List α) (values : List β) (all : List.Forall₂ related items values)
    (same : ∀ item ∈ items, ∀ value, related item value → after value = before item) :
    values.map after = items.map before := by
  induction all with
  | nil => rfl
  | @cons item value items values first _ ih =>
      rw [List.map_cons, List.map_cons, same item List.mem_cons_self value first,
        ih fun other present => same other (List.mem_cons_of_mem _ present)]

theorem plain_unknown (fields : Fields types) (key : String) (tree : Tree)
    (unknown : key ∉ fields.names) : fields.isPlain key tree = true := by
  induction fields with
  | nil => rfl
  | field name codec absence rest ih =>
      rw [Fields.names, List.mem_cons, not_or] at unknown
      rw [Fields.isPlain, if_neg unknown.1]
      exact ih unknown.2

theorem plain_record {source : Source Tree} (reads : source.ReadsTrees) (name : String)
    (fields : Fields types) (build : Row types → α) (parts : α → Row types) (tree : Tree)
    (plain : (Codec.record name fields build parts).isPlain tree) (value : α)
    (decoded : (Codec.record name fields build parts).decode source tree = .ok value) :
    ∃ members, tree = .object members := by
  obtain ⟨surplus, emptyPayload, exact⟩ := reads
  cases tree with
  | object members => exact ⟨members, rfl⟩
  | list items => cases plain
  | _ => cases decoded

theorem plain_flattened {source : Source Tree} (reads : source.ReadsTrees)
    {own inner : List Type} (name : String) (ownFields : Fields own) (innerFields : Fields inner)
    (build : Row own → Row inner → α) (parts : α → Row own × Row inner) (tree : Tree) (value : α)
    (decoded : (Codec.flattened name ownFields innerFields build parts).decode source tree =
      .ok value) : ∃ members, tree = .object members := by
  obtain ⟨surplus, emptyPayload, exact⟩ := reads
  cases tree with
  | object members => exact ⟨members, rfl⟩
  | _ => cases decoded

mutual

/-- Writing what was read from a tree gives the normal form of the tree. -/
theorem Codec.encode_decode {source : Source Tree} (reads : source.ReadsTrees) :
    {α : Type} → {codec : Codec α} → codec.Lawful → (tree : Tree) → tree.Sorted →
      codec.isPlain tree → (value : α) → codec.decode source tree = .ok value →
      (codec.encode value).canonical = codec.normal tree
  | _, _, .text, tree, _, _, value, decoded => by
      rw [(decode_text reads tree value).mp decoded]
      rfl
  | _, _, .bool, tree, _, _, value, decoded => by
      rw [(decode_bool reads tree value).mp decoded]
      rfl
  | _, _, .int64, tree, _, _, value, decoded => by
      rw [(decode_int64 reads tree value).mp decoded]
      rfl
  | _, _, .uint32, tree, _, _, value, decoded => by
      rw [(decode_uint32 reads tree value).mp decoded]
      rfl
  | _, _, .uint64, tree, _, _, value, decoded => by
      rw [(decode_uint64 reads tree value).mp decoded]
      rfl
  | _, .option codec, .option inner _, tree, sorted, plain, value, decoded => by
      by_cases unset : tree = .null
      · subst unset
        rw [decode_null reads] at decoded
        cases decoded
        exact codec.normal_null.symm
      · rw [decode_present reads tree codec unset] at decoded
        obtain ⟨held, read, rfl⟩ := (map_ok _ _ _).mp decoded
        exact Codec.encode_decode reads inner tree sorted plain held read
  | _, .list codec, .list item, tree, sorted, plain, values, decoded => by
      obtain ⟨items, rfl, read⟩ := (decode_list reads tree codec values).mp decoded
      cases sorted with
      | list items each =>
          rw [Codec.encode, Tree.canonical_list, List.map_map]
          refine congrArg Tree.list (map_related items values read fun one present value read => ?_)
          exact Codec.encode_decode reads item one (each one present)
            (List.all_eq_true.mp plain one present) value read
  | _, .dict codec, .dict entry, tree, sorted, plain, dict, decoded => by
      obtain ⟨members, rfl, read⟩ := (decode_dict reads tree codec dict sorted).mp decoded
      cases sorted with
      | object members ascending each =>
          rw [Codec.encode, Tree.canonical_object, List.map_map, sort_ascending]
          · refine congrArg Tree.object
              (map_related members dict.entries read fun member present held same => ?_)
            have normal := Codec.encode_decode reads entry member.2 (each member present)
              (List.all_eq_true.mp plain member present) held.2 same.2
            exact Prod.ext same.1.symm normal
          · exact ascending_map (fun value => (codec.encode value).canonical) _ dict.ascending
  | _, .choice known name, .choice _, tree, _, plain, value, decoded => by
      obtain ⟨text, rfl, found⟩ := (decode_choice reads tree known name value
        fun members same => by
          subst same
          cases plain).mp decoded
      have same := List.find?_some found
      rw [Codec.encode, beq_iff_eq.mp same]
      rfl
  | _, _, .boolOrText name, tree, _, _, value, decoded => by
      rw [(decode_boolOrText reads tree name value).mp decoded]
      cases value <;> rfl
  | _, .via codec build parts, .via form _ retaken, tree, sorted, plain, value, decoded => by
      rw [decode_via] at decoded
      obtain ⟨held, read, rfl⟩ := (map_ok _ _ _).mp decoded
      rw [Codec.encode, retaken]
      exact Codec.encode_decode reads form tree sorted plain held read
  | _, .record name fields build parts, .record each named _ retaken, tree, sorted, plain, value,
      decoded => by
      obtain ⟨members, rfl⟩ := plain_record reads name fields build parts tree plain value decoded
      cases sorted with
      | object members ascending sortedEach =>
          have distinct := ascending_nodup members ascending
          obtain ⟨row, gathered, rfl⟩ :=
            (record_ok source reads name fields build parts named members distinct value).mp decoded
          rw [Codec.encode, retaken]
          exact record_rewritten fields named members distinct row
            (Fields.member_encoded reads each named members sortedEach (List.all_eq_true.mp plain)
              row gathered)
  | _, .flattened name ownFields innerFields build parts,
      .flattened each eachInner named _ retaken, tree, sorted, plain, value, decoded => by
      obtain ⟨members, rfl⟩ := plain_flattened reads name ownFields innerFields build parts tree
        value decoded
      obtain ⟨innerNamed, ownNamed, _⟩ := List.nodup_append.mp named
      cases sorted with
      | object members ascending sortedEach =>
          have distinct := ascending_nodup members ascending
          have plainBoth := fun member present =>
            Bool.and_eq_true_iff.mp (List.all_eq_true.mp plain member present)
          obtain ⟨row, gathered, innerRow, gatheredInner, rfl⟩ := (flattened_ok source reads name
            ownFields innerFields build parts named members distinct value).mp decoded
          rw [Codec.encode, retaken]
          exact flattened_rewritten ownFields innerFields named members distinct row innerRow
            (Fields.member_encoded reads each ownNamed members sortedEach
              (fun member present => (plainBoth member present).1) row gathered)
            (Fields.member_encoded Source.buffered_reads eachInner innerNamed members sortedEach
              (fun member present => (plainBoth member present).2) innerRow gatheredInner)

theorem Fields.member_encoded {source : Source Tree} (reads : source.ReadsTrees) :
    {types : List Type} → {fields : Fields types} → fields.Lawful → fields.names.Nodup →
      (members : List (String × Tree)) → (∀ member ∈ members, member.2.Sorted) →
      (∀ member ∈ members, fields.isPlain member.1 member.2) → (row : Row types) →
      fields.gather source members = .ok row → fields.Rewrites members row
  | _, _, .nil, _, members, _, _, _, _, key => by
      cases memberOf key members <;> rfl
  | _, .field name codec absence rest, .field value absent others, named, members, sorted, plain,
      (first, row), gathered, key => by
      obtain ⟨decoded, gatheredRest⟩ := (Fields.gather_field ..).mp gathered
      rw [Fields.names, List.nodup_cons] at named
      by_cases hit : key = name
      · subst hit
        rw [Fields.members_first key codec absence rest first row named.1]
        cases held : memberOf key members with
        | none =>
            rw [held, Fields.gatherField] at decoded
            cases missing : absence.inObject with
            | none =>
                rw [missing] at decoded
                cases decoded
            | some filling =>
                rw [missing] at decoded
                cases decoded
                rw [Option.elim_none,
                  filled_first key codec absence rest members first missing held named.1]
                cases hidden : absence.isHidden first with
                | true => rfl
                | false =>
                    exact congrArg some (empty_canonical _
                      (filled_empty codec absence absent first missing hidden))
        | some tree =>
            rw [held] at decoded
            have inside := member_mem key tree members held
            have plainHere := plain _ inside
            rw [Fields.isPlain, if_pos rfl] at plainHere
            have normal := Codec.encode_decode reads value tree (sorted _ inside) plainHere first
              decoded
            rw [Option.elim_some, Fields.kept, if_pos rfl, ← normal,
              ← hidden_unset reads codec absence absent tree first decoded]
            cases absence.isHidden first <;> rfl
      · have plainRest : ∀ member ∈ members, rest.isPlain member.1 member.2 := by
          intro member present
          by_cases met : member.1 = name
          · exact plain_unknown rest member.1 member.2 (met ▸ named.1)
          · have plainHere := plain member present
            rwa [Fields.isPlain, if_neg met] at plainHere
        have others := Fields.member_encoded reads others named.2 members sorted plainRest row
          gatheredRest key
        have later : (Fields.field name codec absence rest).kept key = rest.kept key :=
          funext fun tree => if_neg hit
        rw [Fields.members_later name key codec absence rest first row hit, others, later,
          filled_later name key codec absence rest members hit]

end

end Entitlement.Record
