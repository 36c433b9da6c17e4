import Mathlib.Data.List.Forall2
import Entitlement.Proofs.Canonical

/-!
Trees whose objects name no member twice. The order of the members says nothing then: however they
are reordered, at whatever depth, the canonical tree is the same.
-/

namespace Entitlement.Json.Tree

/-- No object has two members of one name, at any depth. -/
inductive Distinct : Tree → Prop
  | null : Distinct .null
  | bool (value : Bool) : Distinct (.bool value)
  | number (value : Number) : Distinct (.number value)
  | text (value : String) : Distinct (.text value)
  | list (items : List Tree) (each : ∀ item ∈ items, Distinct item) : Distinct (.list items)
  | object (members : List (String × Tree)) (keys : (members.map (·.1)).Nodup)
      (each : ∀ member ∈ members, Distinct member.2) : Distinct (.object members)

/-- The members of objects are put in another order, of one object after the other. -/
inductive Reordered : Tree → Tree → Prop
  | members (old new : List (String × Tree)) (order : old.Perm new) :
      Reordered (.object old) (.object new)
  | item (before after : List Tree) (old new : Tree) (inside : Reordered old new) :
      Reordered (.list (before ++ old :: after)) (.list (before ++ new :: after))
  | member (before after : List (String × Tree)) (key : String) (old new : Tree)
      (inside : Reordered old new) :
      Reordered (.object (before ++ (key, old) :: after))
        (.object (before ++ (key, new) :: after))
  | trans (first middle last : Tree) (one : Reordered first middle)
      (other : Reordered middle last) : Reordered first last

/-- Trees with distinct members that differ in the order of these at most. -/
structure Alike (one other : Tree) : Prop where
  distinct : one.Distinct
  alsoDistinct : other.Distinct
  same : one.canonical = other.canonical

theorem Alike.symm {one other : Tree} (alike : one.Alike other) : other.Alike one :=
  ⟨alike.alsoDistinct, alike.distinct, alike.same.symm⟩

theorem Sorted.distinct {tree : Tree} (sorted : tree.Sorted) : tree.Distinct := by
  induction sorted with
  | null => exact .null
  | bool value => exact .bool value
  | number value => exact .number value
  | text value => exact .text value
  | list items _ ih => exact .list items ih
  | object members ascending _ ih => exact .object members (ascending_nodup members ascending) ih

theorem Distinct.alike_canonical {tree : Tree} (distinct : tree.Distinct) :
    tree.Alike tree.canonical :=
  ⟨distinct, (canonical_sorted tree).distinct, (canonical_sorted tree).canonical_same.symm⟩

-- Reordering

theorem member_perm {α : Type} (key : String) (old new : List (String × α))
    (distinct : (old.map (·.1)).Nodup) (order : old.Perm new) :
    memberOf key old = memberOf key new := by
  have alsoDistinct : (new.map (·.1)).Nodup := (order.map _).nodup_iff.mp distinct
  cases held : memberOf key old with
  | none =>
      rw [member_absent] at held
      exact ((member_absent key new).mpr fun entry present =>
        held entry (order.mem_iff.mpr present)).symm
  | some value =>
      have present := order.mem_iff.mp (member_mem key value old held)
      exact (member_of_mem (key, value) new alsoDistinct present).symm

theorem sort_perm {α : Type} (old new : List (String × α)) (distinct : (old.map (·.1)).Nodup)
    (order : old.Perm new) : sortMembers old = sortMembers new := by
  refine ascending_ext _ _ (ascending_sort old) (ascending_sort new) fun key => ?_
  rw [member_sort_distinct key old distinct,
    member_sort_distinct key new ((order.map _).nodup_iff.mp distinct)]
  exact member_perm key old new distinct order

/-- Whatever is reordered is alike. -/
theorem Reordered.alike {old new : Tree} (reordered : Reordered old new)
    (distinct : old.Distinct) : old.Alike new := by
  induction reordered with
  | members old new order =>
      cases distinct with
      | object _ keys each =>
          refine ⟨.object old keys each, .object new ((order.map _).nodup_iff.mp keys) ?_, ?_⟩
          · exact fun member present => each member (order.mem_iff.mpr present)
          · rw [canonical_object, canonical_object]
            congr 1
            refine sort_perm _ _ ?_ (order.map _)
            rw [List.map_map]
            exact keys
  | item before after old new _ ih =>
      cases distinct with
      | list _ each =>
          have alike := ih (each old (by simp))
          refine ⟨.list _ each, .list _ fun item present => ?_, ?_⟩
          · rcases List.mem_append.mp present with early | late
            · exact each item (List.mem_append_left _ early)
            · rcases List.mem_cons.mp late with rfl | late
              · exact alike.alsoDistinct
              · exact each item (List.mem_append_right _ (List.mem_cons_of_mem _ late))
          · rw [canonical_list, canonical_list, List.map_append, List.map_append, List.map_cons,
              List.map_cons, alike.same]
  | member before after key old new _ ih =>
      cases distinct with
      | object _ keys each =>
          have alike := ih (each (key, old) (by simp))
          refine ⟨.object _ keys each, .object _ ?_ fun member present => ?_, ?_⟩
          · simpa using keys
          · rcases List.mem_append.mp present with early | late
            · exact each member (List.mem_append_left _ early)
            · rcases List.mem_cons.mp late with rfl | late
              · exact alike.alsoDistinct
              · exact each member (List.mem_append_right _ (List.mem_cons_of_mem _ late))
          · simp only [canonical_object, List.map_append, List.map_cons, alike.same]
  | trans first middle last _ _ ih alsoIh =>
      have alike := ih distinct
      have alsoAlike := alsoIh alike.alsoDistinct
      exact ⟨distinct, alsoAlike.alsoDistinct, alike.same.trans alsoAlike.same⟩

-- The parts of trees that are alike

theorem items_alike (items others : List Tree) (each : ∀ item ∈ items, item.Distinct)
    (alsoEach : ∀ item ∈ others, item.Distinct)
    (same : items.map canonical = others.map canonical) : List.Forall₂ Alike items others := by
  induction items generalizing others with
  | nil =>
      rw [List.map_nil, List.nil_eq, List.map_eq_nil_iff] at same
      rw [same]
      exact .nil
  | cons item rest ih =>
      obtain ⟨other, behind, rfl, first, follows⟩ := List.map_eq_cons_iff.mp same.symm
      obtain ⟨distinct, each⟩ := List.forall_mem_cons.mp each
      obtain ⟨alsoDistinct, alsoEach⟩ := List.forall_mem_cons.mp alsoEach
      exact .cons ⟨distinct, alsoDistinct, first.symm⟩ (ih behind each alsoEach follows.symm)

theorem members_alike (members others : List (String × Tree))
    (keys : (members.map (·.1)).Nodup) (alsoKeys : (others.map (·.1)).Nodup)
    (each : ∀ member ∈ members, member.2.Distinct)
    (alsoEach : ∀ member ∈ others, member.2.Distinct)
    (same : sortMembers (members.map fun member => (member.1, member.2.canonical)) =
      sortMembers (others.map fun member => (member.1, member.2.canonical))) (key : String) :
    Option.Rel Alike (memberOf key members) (memberOf key others) := by
  have held := congrArg (memberOf key) same
  rw [canonical_member, canonical_member, member_reverse key members keys,
    member_reverse key others alsoKeys] at held
  cases one : memberOf key members with
  | none =>
      rw [one, Option.map_none, eq_comm, Option.map_eq_none_iff] at held
      rw [held]
      exact .none
  | some tree =>
      rw [one, Option.map_some, eq_comm, Option.map_eq_some_iff] at held
      obtain ⟨other, alsoOne, equal⟩ := held
      rw [alsoOne]
      exact .some ⟨each _ (member_mem key tree members one),
        alsoEach _ (member_mem key other others alsoOne), equal.symm⟩

inductive AlikeLevel : Tree → Tree → Prop
  | null : AlikeLevel .null .null
  | bool (value : Bool) : AlikeLevel (.bool value) (.bool value)
  | number (value : Number) : AlikeLevel (.number value) (.number value)
  | text (value : String) : AlikeLevel (.text value) (.text value)
  | list (items others : List Tree) (each : List.Forall₂ Alike items others) :
      AlikeLevel (.list items) (.list others)
  | object (members others : List (String × Tree)) (keys : (members.map (·.1)).Nodup)
      (alsoKeys : (others.map (·.1)).Nodup)
      (each : ∀ key, Option.Rel Alike (memberOf key members) (memberOf key others)) :
      AlikeLevel (.object members) (.object others)

theorem Alike.level {one other : Tree} (alike : one.Alike other) : AlikeLevel one other := by
  obtain ⟨distinct, alsoDistinct, same⟩ := alike
  cases distinct with
  | list items each =>
      cases alsoDistinct with
      | list others alsoEach =>
          rw [canonical_list, canonical_list, Tree.list.injEq] at same
          exact .list items others (items_alike items others each alsoEach same)
      | _ => simp [canonical] at same
  | object members keys each =>
      cases alsoDistinct with
      | object others alsoKeys alsoEach =>
          rw [canonical_object, canonical_object, Tree.object.injEq] at same
          exact .object members others keys alsoKeys
            (members_alike members others keys alsoKeys each alsoEach same)
      | _ => simp [canonical] at same
  | _ =>
      cases alsoDistinct <;> simp only [canonical, reduceCtorEq] at same
      cases same
      constructor

end Entitlement.Json.Tree
