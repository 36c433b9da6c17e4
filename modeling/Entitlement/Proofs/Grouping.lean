import Mathlib.Data.List.Basic
import Entitlement.Catalog
import Entitlement.Proofs.Dictionary

/-!
The two passes of the join. The prices are put into groups by the plan they name, and then each
plan takes its group away. All the while the groups that are left hold exactly the prices that no
plan has taken so far.
-/

namespace Entitlement.Catalog

def Orphan (plans : List Plan) (price : Price) : Prop :=
  ∀ plan ∈ plans, plan.id ≠ price.planId

instance (plans : List Plan) (price : Price) : Decidable (Orphan plans price) :=
  inferInstanceAs (Decidable (∀ plan ∈ plans, plan.id ≠ price.planId))

theorem orphan_cons (plan : Plan) (rest : List Plan) (price : Price) :
    Orphan (plan :: rest) price ↔ price.planId ≠ plan.id ∧ Orphan rest price := by
  rw [Orphan, List.forall_mem_cons]
  exact and_congr_left fun _ => ne_comm

theorem filter_orphans_cons (plan : Plan) (rest : List Plan) (listed : List Price) :
    (listed.filter fun price => Orphan (plan :: rest) price) =
      (listed.filter fun price => !(price.planId == plan.id)).filter fun price =>
        Orphan rest price := by
  rw [List.filter_filter]
  apply List.filter_congr
  intro price _
  rw [Bool.eq_iff_iff]
  simp [orphan_cons, and_comm]

-- The groups

theorem groupOf_add (groups : Groups) (price : Price) (planId : String) :
    groupOf (addToGroup groups price) planId =
      groupOf groups planId ++ [price].filter fun price => price.planId == planId := by
  unfold groupOf addToGroup
  rw [Dict.get?_insert]
  by_cases named : price.planId = planId
  · simp [named, groupOf]
  · have different : planId ≠ price.planId := Ne.symm named
    simp [named, different]

theorem groupOf_erase (groups : Groups) (taken planId : String) :
    groupOf (groups.erase taken) planId = if planId = taken then [] else groupOf groups planId := by
  unfold groupOf
  rw [Dict.get?_erase]
  by_cases gone : planId = taken <;> simp [gone]

/-- Groups that hold exactly the listed prices. A group is there only if it has a price. -/
structure Holds (groups : Groups) (listed : List Price) : Prop where
  grouped : ∀ planId, groupOf groups planId = listed.filter fun price => price.planId == planId
  keys_iff : ∀ planId, planId ∈ groups.keys ↔ ∃ price ∈ listed, price.planId = planId

theorem holds_add (groups : Groups) (listed : List Price) (price : Price)
    (holds : Holds groups listed) : Holds (addToGroup groups price) (listed ++ [price]) := by
  constructor
  case grouped =>
    intro planId
    rw [groupOf_add, holds.grouped, List.filter_append]
  case keys_iff =>
    intro planId
    rw [addToGroup, Dict.mem_keys_insert, holds.keys_iff]
    simp [or_and_right, exists_or, or_comm, eq_comm]

theorem holds_fold (prices : List Price) (groups : Groups) (listed : List Price)
    (holds : Holds groups listed) : Holds (prices.foldl addToGroup groups) (listed ++ prices) := by
  induction prices generalizing groups listed with
  | nil => simpa using holds
  | cons price rest ih =>
      have added := ih (addToGroup groups price) (listed ++ [price])
        (holds_add groups listed price holds)
      simpa using added

theorem holds_groups (prices : List Price) : Holds (groupByPlan prices) prices := by
  have empty : Holds .empty [] := by
    constructor
    · intro planId
      rfl
    · simp [Dict.keys, Dict.empty]
  exact holds_fold prices .empty [] empty

theorem holds_erase (groups : Groups) (listed : List Price) (taken : String)
    (holds : Holds groups listed) :
    Holds (groups.erase taken) (listed.filter fun price => !(price.planId == taken)) := by
  constructor
  case grouped =>
    intro planId
    rw [groupOf_erase, holds.grouped, List.filter_filter]
    by_cases gone : planId = taken
    · subst planId
      simp
    · rw [if_neg gone]
      apply List.filter_congr
      intro price _
      by_cases named : price.planId = planId
      · simp [named, gone]
      · simp [named]
  case keys_iff =>
    intro planId
    rw [Dict.mem_keys_erase, holds.keys_iff]
    constructor
    · rintro ⟨other, price, member, named⟩
      exact ⟨price, by simp [member, named, other], named⟩
    · rintro ⟨price, member, named⟩
      rw [List.mem_filter] at member
      exact ⟨by simpa [named] using member.2, price, member.1, named⟩

theorem groups_exact (prices : List Price) (planId : String) :
    groupOf (groupByPlan prices) planId = prices.filter fun price => price.planId == planId :=
  (holds_groups prices).grouped planId

-- Every plan takes its group away

theorem handOut_left (plans : List Plan) (groups : Groups) (listed : List Price)
    (holds : Holds groups listed) :
    Holds (handOut groups plans).2 (listed.filter fun price => Orphan plans price) := by
  induction plans generalizing groups listed with
  | nil => simpa [handOut, Orphan] using holds
  | cons plan rest ih =>
      rw [filter_orphans_cons]
      exact ih (groups.erase plan.id) _ (holds_erase groups listed plan.id holds)

/-- What is handed out and what is left over are together what there was. -/
theorem handOut_conserves (plans : List Plan) (groups : Groups) (listed : List Price)
    (holds : Holds groups listed) :
    ((handOut groups plans).1.flatMap Offer.prices ++
      listed.filter fun price => Orphan plans price).Perm listed := by
  induction plans generalizing groups listed with
  | nil => simp [handOut, Orphan]
  | cons plan rest ih =>
      have tail := ih (groups.erase plan.id) _ (holds_erase groups listed plan.id holds)
      have lifted := List.Perm.append_left (groupOf groups plan.id) tail
      rw [← filter_orphans_cons, holds.grouped] at lifted
      have combined := lifted.trans (List.filter_append_perm _ listed)
      simpa [handOut, holds.grouped, List.append_assoc] using combined

theorem join_conserved (plans : List Plan) (prices : List Price) :
    ((join plans prices).flatMap Offer.prices ++
      prices.filter fun price => Orphan plans price).Perm prices :=
  handOut_conserves plans (groupByPlan prices) prices (holds_groups prices)

-- The place of each plan

/-- No plan before a place has the id of the plan. -/
def FirstAt (plans : List Plan) (place : Nat) (plan : Plan) : Prop :=
  ∀ earlier ∈ plans.take place, earlier.id ≠ plan.id

instance (plans : List Plan) (place : Nat) (plan : Plan) : Decidable (FirstAt plans place plan) :=
  inferInstanceAs (Decidable (∀ earlier ∈ plans.take place, earlier.id ≠ plan.id))

theorem handOut_plans (plans : List Plan) (groups : Groups) :
    (handOut groups plans).1.map Offer.plan = plans := by
  induction plans generalizing groups with
  | nil => rfl
  | cons plan rest ih => simp [handOut, ih]

theorem join_plans (plans : List Plan) (prices : List Price) :
    (join plans prices).map Offer.plan = plans :=
  handOut_plans plans (groupByPlan prices)

theorem handOut_place (plans : List Plan) (groups : Groups) (place : Nat) :
    (handOut groups plans).1[place]? = plans[place]?.map fun plan =>
      ⟨plan, if FirstAt plans place plan then groupOf groups plan.id else []⟩ := by
  induction plans generalizing groups place with
  | nil => simp [handOut]
  | cons first rest ih =>
      cases place with
      | zero => simp [handOut, FirstAt]
      | succ place =>
          simp only [handOut, List.getElem?_cons_succ, ih]
          apply Option.map_congr
          intro plan _
          rw [groupOf_erase]
          by_cases repeats : plan.id = first.id
          · simp [FirstAt, repeats]
          · simp [FirstAt, repeats, Ne.symm repeats]

theorem join_place (plans : List Plan) (prices : List Price) (place : Nat) :
    (join plans prices)[place]? = plans[place]?.map fun plan =>
      ⟨plan, if FirstAt plans place plan then
        prices.filter fun price => price.planId == plan.id else []⟩ := by
  rw [join, handOut_place]
  simp only [groups_exact]

end Entitlement.Catalog
