import Entitlement.Account
import Entitlement.Proofs.WireFormat

/-!
Patches. A record is patched by writing it, putting the members of the patch behind its own and
reading it again. Members that a patch does not name stay as they are, and two patches one after
the other are one patch with the members of both.
-/

namespace Entitlement.Record

open Json

variable {α : Type} {types : List Type}

namespace Fields

variable {source : Source Tree} (reads : source.ReadsTrees)

include reads

/-- A field reads back from what a record writes under its name, perhaps nothing. -/
theorem gatherField_encoded (name : String) {codec : Codec α} {absence : Absence α}
    (value : codec.Lawful) (absent : absence.Lawful codec) (first : α) :
    gatherField source name codec absence
        ((if absence.isHidden first then none else some (codec.encode first)).map Tree.canonical) =
      .ok first := by
  have named : (field name codec absence .nil).names.Nodup := List.nodup_singleton name
  have alone := gather_encoded reads (.field value absent .nil) named
    (first, ()) (((field name codec absence .nil).members (first, ())).map
      fun member => (member.1, member.2.canonical)) fun other _ => member_map other _ _
  have read := ((gather_field ..).mp alone).1
  rwa [member_map, members_first name codec absence .nil first () List.not_mem_nil] at read

variable (fields : Fields types) (each : fields.Lawful) (named : fields.names.Nodup)
  (row : Row types) (held : List (String × Tree)) (gathered : fields.gather source held = .ok row)

include each named gathered

/-- What is read from a member that another record writes is written like that again. -/
theorem members_kept (other : Row types) (name : String)
    (same : memberOf name held = (memberOf name (fields.members other)).map Tree.canonical) :
    memberOf name (fields.members row) = memberOf name (fields.members other) := by
  induction fields with
  | nil => rfl
  | field key codec absence rest ih =>
      obtain ⟨value, values⟩ := row
      obtain ⟨written, others⟩ := other
      rw [names, List.nodup_cons] at named
      cases each with
      | field lawful absent eachRest =>
          obtain ⟨first, gatheredRest⟩ := (gather_field ..).mp gathered
          by_cases hit : name = key
          · subst hit
            rw [members_first name codec absence rest _ _ named.1] at same ⊢
            rw [members_first name codec absence rest _ _ named.1]
            rw [same, gatherField_encoded reads name lawful absent] at first
            cases first
            rfl
          · rw [members_later _ _ _ _ _ _ _ hit] at same ⊢
            rw [members_later _ _ _ _ _ _ _ hit]
            exact ih eachRest named.2 values gatheredRest others same

/-- A field that is written again reads like the member it was read from. -/
theorem gather_again (one two : List (String × Tree))
    (agree : ∀ name ∈ fields.names, memberOf name one = memberOf name two ∨
      (memberOf name one = (memberOf name (fields.members row)).map Tree.canonical ∧
        memberOf name two = memberOf name held)) :
    fields.gather source one = fields.gather source two := by
  induction fields with
  | nil => rfl
  | field key codec absence rest ih =>
      obtain ⟨value, values⟩ := row
      rw [names, List.nodup_cons] at named
      cases each with
      | field lawful absent eachRest =>
          obtain ⟨first, gatheredRest⟩ := (gather_field ..).mp gathered
          have head : gatherField source key codec absence (memberOf key one) =
              gatherField source key codec absence (memberOf key two) := by
            rcases agree key List.mem_cons_self with same | ⟨written, asHeld⟩
            · rw [same]
            · rw [written, members_first key codec absence rest _ _ named.1, asHeld, first,
                gatherField_encoded reads key lawful absent]
          have tail := ih eachRest named.2 values gatheredRest fun name present => by
            have different : name ≠ key := fun same => named.1 (same ▸ present)
            rw [← members_later key name codec absence rest value values different]
            exact agree name (List.mem_cons_of_mem key present)
          rw [gather, gather, head, tail]

end Fields

-- Records

/-- What is held under a name once a patch is laid over the members of a record. -/
theorem patched_member (name : String) (written patch : List (String × Tree))
    (distinct : (written.map (·.1)).Nodup) :
    memberOf name (sortMembers ((written ++ patch).map fun member =>
        (member.1, member.2.canonical))) =
      ((memberOf name patch.reverse).or (memberOf name written)).map Tree.canonical := by
  rw [Tree.canonical_member, List.reverse_append, member_append,
    member_reverse name written distinct]

section Records

variable {name : String} {fields : Fields types} {build : Row types → α} {parts : α → Row types}
  (lawful : (Codec.record name fields build parts).Lawful) (value result : α)
  (patch : List (String × Tree))

include lawful

theorem record_patched (after : α) :
    (Codec.record name fields build parts).ofTree
        (.object (fields.members (parts value) ++ patch)) = .ok after ↔
      fields.gather Source.tree (sortMembers ((fields.members (parts value) ++ patch).map
        fun member => (member.1, member.2.canonical))) = .ok (parts after) := by
  cases lawful with
  | record each named rebuilt retaken =>
      rw [Codec.ofTree, Tree.canonical_object, record_ok Source.tree Source.tree_reads name fields
        build parts named _ (sort_distinct _)]
      constructor
      · rintro ⟨row, gathered, rfl⟩
        rwa [retaken]
      · exact fun gathered => ⟨_, gathered, rebuilt after⟩

variable (read : (Codec.record name fields build parts).ofTree
  (.object (fields.members (parts value) ++ patch)) = .ok result)

include read

theorem record_kept (key : String) (unnamed : ∀ member ∈ patch, member.1 ≠ key) :
    memberOf key (fields.members (parts result)) = memberOf key (fields.members (parts value)) := by
  have gathered := (record_patched lawful value patch result).mp read
  cases lawful with
  | record each named rebuilt retaken =>
      refine fields.members_kept Source.tree_reads each named _ _ gathered (parts value) key ?_
      have absent : memberOf key patch.reverse = none :=
        (member_absent ..).mpr fun member present => unnamed member (List.mem_reverse.mp present)
      rw [patched_member _ _ _ (named.sublist (fields.members_named _)), absent, Option.none_or]

theorem record_again (more : List (String × Tree)) (after : α) :
    (Codec.record name fields build parts).ofTree
        (.object (fields.members (parts result) ++ more)) = .ok after ↔
      (Codec.record name fields build parts).ofTree
        (.object (fields.members (parts value) ++ (patch ++ more))) = .ok after := by
  have gathered := (record_patched lawful value patch result).mp read
  rw [record_patched lawful, record_patched lawful]
  cases lawful with
  | record each named rebuilt retaken =>
      rw [fields.gather_again Source.tree_reads each named _ _ gathered _
        (sortMembers ((fields.members (parts value) ++ (patch ++ more)).map
          fun member => (member.1, member.2.canonical)))]
      intro key _
      have distinct (held : α) := named.sublist (fields.members_named (parts held))
      rw [patched_member _ _ _ (distinct result), patched_member _ _ _ (distinct value),
        patched_member _ _ _ (distinct value), List.reverse_append, member_append]
      cases memberOf key more.reverse with
      | some tree => exact .inl rfl
      | none => exact .inr ⟨rfl, rfl⟩

end Records

end Entitlement.Record

namespace Entitlement.Account

open Json Record

def written (subscription : Subscription) : List (String × Tree) :=
  membersOf (Subscription.codec.encode subscription)

structure Patches (subscription : Subscription) (patch : Tree) (patched : Subscription) : Prop where
  kept : ∀ key, (∀ member ∈ membersOf patch, member.1 ≠ key) →
    memberOf key (written patched) = memberOf key (written subscription)
  merged : ∀ more after, Account.patched patched more = .ok after ↔
    Account.patched subscription (.object (membersOf patch ++ membersOf more)) = .ok after

/-- Members that a patch does not name are kept, and what a second patch makes of the result is what
both of them make at once. -/
theorem patched_patches (subscription : Subscription) (patch : Tree) (patched : Subscription)
    (read : Account.patched subscription patch = .ok patched) :
    Patches subscription patch patched where
  kept := record_kept Subscription.codec_lawful subscription patched (membersOf patch) read
  merged more := record_again Subscription.codec_lawful subscription patched (membersOf patch) read
    (membersOf more)

/-- A patch without members changes nothing. -/
theorem patched_nothing (subscription : Subscription) (patch : Tree)
    (nothing : membersOf patch = []) : Account.patched subscription patch = .ok subscription := by
  rw [Account.patched, nothing, List.append_nil]
  exact Codec.decode_encode Source.tree_reads Subscription.codec_lawful subscription

/-- Patches that are accepted one after the other are one patch with the members of all of them. -/
theorem patches_merged (subscription : Subscription) (patches : List Tree) (final : Subscription)
    (accepted : patches.foldlM patched subscription = .ok final) :
    patched subscription (.object (patches.flatMap membersOf)) = .ok final := by
  induction patches generalizing subscription with
  | nil =>
      rw [← Except.ok.inj accepted]
      exact patched_nothing subscription _ rfl
  | cons patch rest ih =>
      rw [List.foldlM_cons] at accepted
      obtain ⟨next, first, others⟩ := (bind_ok _ _ _).mp accepted
      exact ((patched_patches subscription patch next first).merged _ final).mp (ih next others)

end Entitlement.Account
