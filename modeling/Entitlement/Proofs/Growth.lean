import Entitlement.Proofs.Distinct
import Entitlement.Proofs.Resolution

/-!
A catalog that grows at its end, or whose entries change places. What a lookup has found stays
found when entries are added behind it. With distinct ids the places do not matter at all.
-/

namespace Entitlement

-- An answer from the entries before is not looked for among those behind.
theorem answer_kept {α : Type} (asked : Option String) (before added after : String → Option α)
    (grown : ∀ id, after id = (before id).or (added id))
    (found : (asked.bind before).isSome = true) : asked.bind after = asked.bind before := by
  cases asked with
  | none => rfl
  | some id =>
      rw [Option.bind_some] at found
      rw [Option.bind_some, Option.bind_some, grown, Option.or_of_isSome found]

namespace Catalog

theorem findPlan?_append (catalog more : Catalog) (planId : String) :
    findPlan? (catalog ++ more) planId =
      (catalog.findPlan? planId).or (more.findPlan? planId) := by
  unfold findPlan?
  rw [List.find?_append]

theorem findPrice?_append (catalog more : Catalog) (priceId : String) :
    findPrice? (catalog ++ more) priceId =
      (catalog.findPrice? priceId).or (more.findPrice? priceId) := by
  unfold findPrice?
  by_cases accepted : canPriceBeFoundInCatalog priceId = true
  · simp only [if_pos accepted, List.flatMap_append, List.find?_append]
  · simp only [if_neg accepted, Option.or_none]

-- Of the catalog the legacy offer sees nothing but the plan that the subscription names.
theorem legacyOffer?_sees (one other : Catalog) (subscription : Subscription)
    (same : subscription.planId.bind one.findPlan? = subscription.planId.bind other.findPlan?) :
    one.legacyOffer? (some subscription) = other.legacyOffer? (some subscription) := by
  simp only [legacyOffer?, Option.bind_eq_bind, Option.bind_some]
  cases named : subscription.planId with
  | none => rfl
  | some planId =>
      rw [named, Option.bind_some, Option.bind_some] at same
      simp only [Option.bind_some, same]

-- Changing places

namespace DistinctIds

variable {catalog reordered : Catalog}

theorem permuted (distinct : catalog.DistinctIds) (order : reordered.Perm catalog) :
    reordered.DistinctIds where
  plans := (order.map Offer.id).nodup_iff.mpr distinct.plans
  prices := ((order.flatMap_right Offer.prices).map Price.id).nodup_iff.mpr distinct.prices

theorem findPlan?_permuted (distinct : catalog.DistinctIds) (order : reordered.Perm catalog) :
    reordered.findPlan? = catalog.findPlan? := by
  funext planId
  apply Option.ext
  intro offer
  rw [(distinct.permuted order).findPlan?_iff, distinct.findPlan?_iff, order.mem_iff]

theorem findPrice?_permuted (distinct : catalog.DistinctIds) (order : reordered.Perm catalog) :
    reordered.findPrice? = catalog.findPrice? := by
  funext priceId
  apply Option.ext
  intro price
  rw [(distinct.permuted order).findPrice?_iff, distinct.findPrice?_iff,
    (order.flatMap_right Offer.prices).mem_iff]

end DistinctIds

end Catalog

namespace Snapshot

/-- How a snapshot over a longer catalog stands to the one over the catalog before. -/
structure Settled (before after : Snapshot) : Prop where
  plan_kept : before.plan.isSome = true → after.plan = before.plan
  legacy_kept : before.plan.isSome = true → after.legacyPlan = before.legacyPlan
  price_kept : before.price.isSome = true → after.price = before.price
  others_same : after =
    { before with plan := after.plan, price := after.price, legacyPlan := after.legacyPlan }

theorem resolve_grown (catalog more : Catalog) (subscription : Option Subscription)
    (limits : Option Limits) (now : Int) :
    Settled (resolve catalog subscription limits now)
      (resolve (catalog ++ more) subscription limits now) := by
  have planKept := answer_kept ((validAt subscription now).bind Subscription.planId)
    catalog.findPlan? more.findPlan? (catalog ++ more).findPlan? (catalog.findPlan?_append more)
  refine ⟨planKept, ?legacy, ?price, rfl⟩
  case legacy =>
    intro found
    have same := planKept found
    show (catalog ++ more).legacyOffer? (validAt subscription now) =
      catalog.legacyOffer? (validAt subscription now)
    cases given : validAt subscription now with
    | none => rfl
    | some valid =>
        rw [given] at same
        exact Catalog.legacyOffer?_sees _ _ valid same
  case price =>
    exact answer_kept _ catalog.findPrice? more.findPrice? (catalog ++ more).findPrice?
      (catalog.findPrice?_append more)

theorem resolve_permuted (catalog reordered : Catalog) (distinct : catalog.DistinctIds)
    (order : reordered.Perm catalog) (subscription : Option Subscription)
    (limits : Option Limits) (now : Int) :
    resolve reordered subscription limits now = resolve catalog subscription limits now := by
  have plans := distinct.findPlan?_permuted order
  have legacies : reordered.legacyOffer? = catalog.legacyOffer? := by
    funext billed
    cases billed with
    | none => rfl
    | some held => exact Catalog.legacyOffer?_sees _ _ held (by rw [plans])
  unfold resolve
  rw [plans, legacies, distinct.findPrice?_permuted order]

/-- Plans added behind the others leave settled answers as they are: a plan and a price that were
found, the legacy plan once the plan is known, and whatever does not come from the catalog. With
distinct ids no answer depends on the order of the plans. -/
theorem settled_answers (subscription : Option Subscription) (limits : Option Limits) (now : Int) :
    (∀ catalog more : Catalog, Settled (resolve catalog subscription limits now)
      (resolve (catalog ++ more) subscription limits now)) ∧
    (∀ catalog reordered : Catalog, catalog.DistinctIds → reordered.Perm catalog →
      resolve reordered subscription limits now = resolve catalog subscription limits now) := by
  refine ⟨?grown, ?permuted⟩
  case grown =>
    intro catalog more
    exact resolve_grown catalog more subscription limits now
  case permuted =>
    intro catalog reordered distinct order
    exact resolve_permuted catalog reordered distinct order subscription limits now

def twoPlans : Catalog :=
  [⟨.bare "P1" false, [.monthly "PS1" "P1"]⟩, ⟨.bare "P2" true, [.monthly "PS2" "P2"]⟩]

-- The plan that is added has the ids of the plan that was found, and is no legacy plan any more.
theorem two_plans_settled :
    let renewed : Catalog := [⟨.bare "P2" false, [.monthly "PS2" "P2", .monthly "PS3" "P2"]⟩]
    let billed := some (Subscription.naming "P2" "PS2")
    (resolve twoPlans billed none 0).plan.isSome = true ∧
    (resolve (twoPlans ++ renewed) billed none 0).plan =
      some ⟨.bare "P2" true, [.monthly "PS2" "P2"]⟩ ∧
    (resolve (twoPlans ++ renewed) billed none 0).legacyPlan =
      some ⟨.bare "P2" true, [.monthly "PS2" "P2"]⟩ ∧
    (resolve (twoPlans ++ renewed) billed none 0).price = some (.monthly "PS2" "P2") ∧
    twoPlans.DistinctIds ∧ twoPlans.reverse.Perm twoPlans ∧
    resolve twoPlans.reverse billed none 0 = resolve twoPlans billed none 0 := by
  intro renewed billed
  obtain ⟨grown, permuted⟩ := settled_answers billed none 0
  have settled := grown twoPlans renewed
  have found : (resolve twoPlans billed none 0).plan.isSome = true := by decide
  have distinct : twoPlans.DistinctIds := ⟨by decide, by decide⟩
  have order : twoPlans.reverse.Perm twoPlans := List.reverse_perm twoPlans
  refine ⟨found, ?plan, ?legacy, ?price, distinct, order, permuted _ _ distinct order⟩
  case plan =>
    rw [settled.plan_kept found]
    decide
  case legacy =>
    rw [settled.legacy_kept found]
    decide
  case price =>
    rw [settled.price_kept (by decide)]
    decide

end Snapshot

end Entitlement
