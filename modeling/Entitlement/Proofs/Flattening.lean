import Entitlement.Proofs.Members
import Entitlement.Proofs.WireFormat

/-!
A flattened record beside the record that it holds. What is left over by the fields of the outer
record is set aside and read from there, and a tree that was set aside differs from others in one
thing only: a named value may then have an empty object for its payload. Where named values are not
written as objects both readings agree, so an offer is no more and no less than its plan and its
prices.
-/

namespace Entitlement

open Json

namespace Record

variable {α : Type} {types : List Type}

mutual

/-- No named value is written as an object. -/
def Codec.namesPlain : {α : Type} → Codec α → Tree → Bool
  | _, .option codec, tree => codec.namesPlain tree
  | _, .via codec _ _, tree => codec.namesPlain tree
  | _, .list codec, tree => match tree with
      | .list items => items.all codec.namesPlain
      | _ => true
  | _, .dict codec, tree => match tree with
      | .object members => members.all fun member => codec.namesPlain member.2
      | _ => true
  | _, .choice _ _, tree => match tree with
      | .object _ => false
      | _ => true
  | _, .record _ fields _ _, tree => match tree with
      | .object members => members.all fun member => fields.namesPlain member.1 member.2
      | .list items => fields.itemsPlain items
      | _ => true
  | _, .flattened _ ownFields innerFields _ _, tree => match tree with
      | .object members => members.all fun member =>
          ownFields.namesPlain member.1 member.2 && innerFields.namesPlain member.1 member.2
      | _ => true
  | _, .text, _ => true
  | _, .bool, _ => true
  | _, .int64, _ => true
  | _, .uint32, _ => true
  | _, .uint64, _ => true
  | _, .boolOrText _, _ => true

def Fields.namesPlain : {types : List Type} → Fields types → String → Tree → Bool
  | _, .nil, _, _ => true
  | _, .field name codec _ rest, key, tree =>
      if key = name then codec.namesPlain tree else rest.namesPlain key tree

def Fields.itemsPlain : {types : List Type} → Fields types → List Tree → Bool
  | _, .field _ codec _ rest, item :: items => codec.namesPlain item && rest.itemsPlain items
  | _, _, _ => true

end

theorem Fields.namesPlain_unknown (fields : Fields types) (key : String) (tree : Tree)
    (unknown : key ∉ fields.names) : fields.namesPlain key tree = true := by
  induction fields with
  | nil => rfl
  | field name codec absence rest ih =>
      rw [names, List.mem_cons, not_or] at unknown
      rw [namesPlain, if_neg unknown.1]
      exact ih unknown.2

theorem Fields.namesPlain_first {name : String} {codec : Codec α} {absence : Absence α}
    {rest : Fields types} {tree : Tree}
    (plain : (field name codec absence rest).namesPlain name tree) : codec.namesPlain tree := by
  rwa [namesPlain, if_pos rfl] at plain

theorem Fields.namesPlain_rest {name key : String} {codec : Codec α} {absence : Absence α}
    {rest : Fields types} {tree : Tree} (fresh : name ∉ rest.names)
    (plain : (field name codec absence rest).namesPlain key tree) : rest.namesPlain key tree := by
  by_cases hit : key = name
  · exact rest.namesPlain_unknown key tree (hit ▸ fresh)
  · rwa [namesPlain, if_neg hit] at plain

theorem forall₂_change {α β : Type} {fits : α → Prop} {related other : α → β → Prop}
    {items : List α} {values : List β} (all : List.Forall₂ related items values)
    (each : ∀ item ∈ items, fits item)
    (change : ∀ item value, fits item → related item value → other item value) :
    List.Forall₂ other items values :=
  ((List.forall₂_and_left items values).mpr ⟨each, all⟩).imp fun item value both =>
    change item value both.1 both.2

mutual

/-- What is read from a tree does not depend on the source where named values are not written as
objects. -/
theorem Codec.decode_elsewhere {near far : Source Tree} (here : near.ReadsTrees)
    (there : far.ReadsTrees) : {α : Type} → {codec : Codec α} → codec.Lawful → (tree : Tree) →
    tree.Sorted → codec.namesPlain tree → (value : α) → codec.decode near tree = .ok value →
      codec.decode far tree = .ok value
  | _, _, .text, tree, _, _, value, decoded =>
      (decode_text there tree value).mpr ((decode_text here tree value).mp decoded)
  | _, _, .bool, tree, _, _, value, decoded =>
      (decode_bool there tree value).mpr ((decode_bool here tree value).mp decoded)
  | _, _, .int64, tree, _, _, value, decoded =>
      (decode_int64 there tree value).mpr ((decode_int64 here tree value).mp decoded)
  | _, _, .uint32, tree, _, _, value, decoded =>
      (decode_uint32 there tree value).mpr ((decode_uint32 here tree value).mp decoded)
  | _, _, .uint64, tree, _, _, value, decoded =>
      (decode_uint64 there tree value).mpr ((decode_uint64 here tree value).mp decoded)
  | _, .option codec, .option inner _, tree, sorted, plain, value, decoded => by
      by_cases unset : tree = .null
      · subst unset
        rw [decode_null here] at decoded
        rwa [decode_null there]
      · rw [decode_present here tree codec unset] at decoded
        obtain ⟨held, read, rfl⟩ := (map_ok _ _ _).mp decoded
        rw [decode_present there tree codec unset,
          Codec.decode_elsewhere here there inner tree sorted plain held read]
        rfl
  | _, .list codec, .list item, tree, sorted, plain, values, decoded => by
      obtain ⟨items, rfl, read⟩ := (decode_list here tree codec values).mp decoded
      cases sorted with
      | list items each =>
          refine (decode_list there _ codec values).mpr ⟨items, rfl, ?_⟩
          exact forall₂_change read
            (fun one present =>
              And.intro (each one present) (List.all_eq_true.mp plain one present))
            fun one value fits => Codec.decode_elsewhere here there item one fits.1 fits.2 value
  | _, .dict codec, .dict entry, tree, sorted, plain, dict, decoded => by
      obtain ⟨members, rfl, read⟩ := (decode_dict here tree codec dict sorted).mp decoded
      refine (decode_dict there _ codec dict sorted).mpr ⟨members, rfl, ?_⟩
      cases sorted with
      | object members ascending each =>
          exact forall₂_change read
            (fun one present =>
              And.intro (each one present) (List.all_eq_true.mp plain one present))
            fun one held fits same =>
              ⟨same.1, Codec.decode_elsewhere here there entry one.2 fits.1 fits.2 held.2 same.2⟩
  | _, .choice known name, .choice _, tree, _, plain, value, decoded => by
      have written : ∀ members, tree ≠ .object members := by
        rintro members rfl
        cases plain
      rw [decode_choice here tree known name value written] at decoded
      exact (decode_choice there tree known name value written).mpr decoded
  | _, _, .boolOrText name, tree, _, _, value, decoded =>
      (decode_boolOrText there tree name value).mpr
        ((decode_boolOrText here tree name value).mp decoded)
  | _, .via codec build parts, .via form _ _, tree, sorted, plain, value, decoded => by
      rw [decode_via] at decoded
      obtain ⟨held, read, rfl⟩ := (map_ok _ _ _).mp decoded
      rw [decode_via, Codec.decode_elsewhere here there form tree sorted plain held read]
      rfl
  | _, .record name fields build parts, .record each named _ _, tree, sorted, plain, value,
      decoded => by
      cases sorted with
      | object members ascending sortedEach =>
          have distinct := ascending_nodup members ascending
          obtain ⟨row, gathered, built⟩ :=
            (record_ok near here name fields build parts named members distinct value).mp
              decoded
          refine (record_ok far there name fields build parts named members distinct
            value).mpr ⟨row, ?_, built⟩
          exact Fields.gather_elsewhere here there each named members sortedEach
            (List.all_eq_true.mp plain) row gathered
      | list items sortedEach =>
          obtain ⟨short, row, listed, built⟩ :=
            (decode_listed here name fields build parts items value).mp decoded
          exact (decode_listed there name fields build parts items value).mpr
            ⟨short, row, Fields.listed_elsewhere here there each items sortedEach plain row listed,
              built⟩
      | _ =>
          obtain ⟨surplus, emptyPayload, exact⟩ := here
          cases decoded
  | _, .flattened name ownFields innerFields build parts, .flattened each _ named _ _, tree,
      sorted, plain, value, decoded => by
      obtain ⟨members, rfl⟩ := plain_flattened here name ownFields innerFields build parts tree
        value decoded
      cases sorted with
      | object members ascending sortedEach =>
          have distinct := ascending_nodup members ascending
          obtain ⟨row, gathered, inner⟩ := (flattened_ok near here name ownFields innerFields
            build parts named members distinct value).mp decoded
          refine (flattened_ok far there name ownFields innerFields build parts named members
            distinct value).mpr ⟨row, ?_, inner⟩
          exact Fields.gather_elsewhere here there each (List.nodup_append.mp named).2.1 members
            sortedEach
            (fun member present =>
              (Bool.and_eq_true_iff.mp (List.all_eq_true.mp plain member present)).1)
            row gathered

theorem Fields.gather_elsewhere {near far : Source Tree} (here : near.ReadsTrees)
    (there : far.ReadsTrees) : {types : List Type} → {fields : Fields types} → fields.Lawful →
    fields.names.Nodup → (members : List (String × Tree)) →
    (∀ member ∈ members, member.2.Sorted) →
    (∀ member ∈ members, fields.namesPlain member.1 member.2) → (row : Row types) →
    fields.gather near members = .ok row → fields.gather far members = .ok row
  | _, _, .nil, _, _, _, _, _, _ => rfl
  | _, .field name codec absence rest, .field value absent others, named, members, sorted, plain,
      (first, row), gathered => by
      obtain ⟨decoded, gatheredRest⟩ := (Fields.gather_field ..).mp gathered
      rw [Fields.names, List.nodup_cons] at named
      refine (Fields.gather_field ..).mpr ⟨?head, ?tail⟩
      case head =>
        cases held : memberOf name members with
        | none => rwa [held] at decoded
        | some tree =>
            rw [held] at decoded
            have inside := member_mem name tree members held
            exact Codec.decode_elsewhere here there value tree (sorted _ inside)
              (Fields.namesPlain_first (plain _ inside)) first decoded
      case tail =>
        exact Fields.gather_elsewhere here there others named.2 members sorted
          (fun member present => Fields.namesPlain_rest named.1 (plain member present)) row
          gatheredRest

theorem Fields.listed_elsewhere {near far : Source Tree} (here : near.ReadsTrees)
    (there : far.ReadsTrees) : {types : List Type} → {fields : Fields types} → fields.Lawful →
    (items : List Tree) → (∀ item ∈ items, item.Sorted) → fields.itemsPlain items →
    (row : Row types) → fields.Listed near items row → fields.Listed far items row
  | _, _, .nil, _, _, _, _, _ => trivial
  | _, .field name codec absence rest, .field value absent others, [], sorted, plain,
      (first, row), listed =>
      ⟨listed.1,
        Fields.listed_elsewhere here there others [] sorted (by cases rest <;> rfl) row listed.2⟩
  | _, .field name codec absence rest, .field value absent others, item :: items, sorted, plain,
      (first, row), listed => by
      obtain ⟨plainFirst, plainRest⟩ := Bool.and_eq_true_iff.mp plain
      obtain ⟨sortedFirst, sortedRest⟩ := List.forall_mem_cons.mp sorted
      exact ⟨Codec.decode_elsewhere here there value item sortedFirst plainFirst first listed.1,
        Fields.listed_elsewhere here there others items sortedRest plainRest row listed.2⟩

end

/-- A flattened record is read as its own fields and the inner ones are, none of them set aside. -/
theorem flattened_direct {source : Source Tree} (reads : source.ReadsTrees) {own inner : List Type}
    (name : String) (ownFields : Fields own) (innerFields : Fields inner)
    (build : Row own → Row inner → α) (parts : α → Row own × Row inner)
    (lawful : innerFields.Lawful) (named : (innerFields.names ++ ownFields.names).Nodup)
    (members : List (String × Tree)) (sorted : (Tree.object members).Sorted)
    (plain : ∀ member ∈ members, innerFields.namesPlain member.1 member.2) (value : α) :
    (Codec.flattened name ownFields innerFields build parts).decode source (.object members) =
        .ok value ↔
      ∃ row, ownFields.gather source members = .ok row ∧
        ∃ innerRow, innerFields.gather source members = .ok innerRow ∧
          build row innerRow = value := by
  cases sorted with
  | object members ascending each =>
      have innerNamed := (List.nodup_append.mp named).1
      have same : ∀ innerRow, innerFields.gather Source.buffered members = .ok innerRow ↔
          innerFields.gather source members = .ok innerRow := fun innerRow =>
        ⟨Fields.gather_elsewhere Source.buffered_reads reads lawful innerNamed members each plain
            innerRow,
          Fields.gather_elsewhere reads Source.buffered_reads lawful innerNamed members each plain
            innerRow⟩
      rw [flattened_ok source reads name ownFields innerFields build parts named members
        (ascending_nodup members ascending)]
      simp only [same]

end Record

namespace Offer

open Record

/-- The prices that the members of an object hold, in key order or as they were written. -/
theorem gather_prices (members : List (String × Tree)) (prices : List Price) :
    (Fields.field "pricingSystems" (.list Price.codec) .required .nil).gather Source.tree
        (sortMembers (members.map fun member => (member.1, member.2.canonical))) =
          .ok (prices, ()) ↔
      ∃ tree, memberOf "pricingSystems" members.reverse = some tree ∧
        (Codec.list Price.codec).ofTree tree = .ok prices := by
  refine (Fields.gather_field ..).trans ?_
  rw [Tree.canonical_member]
  cases memberOf "pricingSystems" members.reverse with
  | none =>
      refine iff_of_false (fun ⟨missing, _⟩ => ?_) (fun ⟨_, absent, _⟩ => ?_)
      · cases missing
      · cases absent
  | some tree =>
      constructor
      · exact fun ⟨read, _⟩ => ⟨tree, rfl, read⟩
      · rintro ⟨_, same, read⟩
        cases same
        exact ⟨read, rfl⟩

theorem encode_members (offer : Offer) : Offer.codec.encode offer =
    .object (Plan.fields.members offer.plan.row ++
      [("pricingSystems", (Codec.list Price.codec).encode offer.prices)]) :=
  rfl

/-- How an offer is read and written, by the plan and the prices that it is made of. -/
structure IsFlat : Prop where
  /-- An object is an offer if it is a plan and its last member of that name is a list of prices. -/
  read : ∀ (members : List (String × Tree)) (offer : Offer),
    Plan.codec.namesPlain (Tree.object members).canonical →
      (Offer.codec.ofTree (.object members) = .ok offer ↔
        Plan.codec.ofTree (.object members) = .ok offer.plan ∧
          ∃ prices, memberOf "pricingSystems" members.reverse = some prices ∧
            (Codec.list Price.codec).ofTree prices = .ok offer.prices)
  written : ∀ offer : Offer, ∃ members, Plan.codec.encode offer.plan = .object members ∧
    memberOf "pricingSystems" members = none ∧
      Offer.codec.encode offer =
        .object (members ++ [("pricingSystems", (Codec.list Price.codec).encode offer.prices)])
  /-- The plan is read again from what the offer is written as. -/
  reread : ∀ offer : Offer, Plan.codec.ofTree (Offer.codec.encode offer) = .ok offer.plan

theorem isFlat : IsFlat where
  read members offer plain := by
    have sorted := Tree.canonical_sorted (.object members)
    rw [Tree.canonical_object] at plain sorted
    rw [Codec.ofTree, Codec.ofTree, Tree.canonical_object, Offer.codec, Plan.codec,
      flattened_direct Source.tree_reads _ _ _ _ _ Plan.fields_lawful (by decide) _ sorted
        (List.all_eq_true.mp plain),
      record_ok Source.tree Source.tree_reads _ _ _ _ (by decide) _ (sort_distinct _)]
    constructor
    · rintro ⟨⟨prices, _⟩, held, row, gathered, rfl⟩
      exact ⟨⟨row, gathered, rfl⟩, (gather_prices members prices).mp held⟩
    · rintro ⟨⟨row, gathered, same⟩, held⟩
      refine ⟨(offer.prices, ()), (gather_prices members offer.prices).mpr held, row, gathered, ?_⟩
      rw [same]
  written offer := by
    refine ⟨Plan.fields.members offer.plan.row, rfl, ?_, offer.encode_members⟩
    exact Plan.fields.members_unknown _ _ (by decide)
  reread offer := by
    have distinct : ((Plan.fields.members offer.plan.row ++
        [("pricingSystems", (Codec.list Price.codec).encode offer.prices)]).map (·.1)).Nodup := by
      rw [List.map_append]
      exact (show (Plan.fields.names ++ ["pricingSystems"]).Nodup by decide).sublist
        ((Plan.fields.members_named offer.plan.row).append (List.Sublist.refl _))
    have gathered := Fields.gather_encoded Source.tree_reads Plan.fields_lawful (by decide)
      offer.plan.row _ fun name present => by
        have other : name ≠ "pricingSystems" := by
          rintro rfl
          revert present
          decide
        rw [member_written _ distinct, member_append, memberOf, if_neg other, memberOf,
          Option.or_none]
    rw [Codec.ofTree, encode_members, Tree.canonical_object, Plan.codec,
      record_ok Source.tree Source.tree_reads _ _ _ _ (by decide) _ (sort_distinct _)]
    exact ⟨offer.plan.row, gathered, rfl⟩

/-- A plan for one audience, its only feature written as a list, with a member that no field has. -/
def goldMembers (audience : Tree) : List (String × Tree) :=
  [("id", .text "gold"), ("isLegacy", .bool false),
    ("nameByLocale", .object [("en", .text "Gold")]),
    ("descriptionByLocale", .object []), ("specificRequirementByLocale", .null),
    ("targetAudiences", .list [audience]),
    ("fullFeatures", .list [.list [.text "cloud", .text "Storage", .null, .null, .text "yes"]]),
    ("note", .list []), ("pricingSystems", .list [])]

theorem gold_read :
    ∃ offer, Offer.codec.ofTree (.object (goldMembers (.text "PRO"))) = .ok offer ∧
      Plan.codec.ofTree (.object (goldMembers (.text "PRO"))) = .ok offer.plan ∧
        offer.plan.audiences = [.pro] := by
  have read : Offer.codec.ofTree (.object (goldMembers (.text "PRO"))) = .ok _ := rfl
  exact ⟨_, read, ((isFlat.read (goldMembers (.text "PRO")) _ rfl).mp read).1, rfl⟩

-- A plan that was set aside takes an empty object for the payload of a name.
example : (Offer.codec.ofTree (.object (goldMembers (.object [("PRO", .object [])])))).isOk = true ∧
    (Plan.codec.ofTree (.object (goldMembers (.object [("PRO", .object [])])))).isOk = false :=
  ⟨rfl, rfl⟩

end Offer

end Entitlement
