import Entitlement.Service.Failure
import Entitlement.Proofs.Grouping
import Entitlement.Proofs.Lookup

/-!
The join neither loses a price nor hands one out twice: each ends up at the first plan with the id
that it names or, if there is none, among those that the warning is about.
-/

namespace Entitlement.Catalog

-- The warning

theorem mem_orphans (plans : List Plan) (prices : List Price) (planId : String) :
    planId ∈ orphans plans prices ↔
      ∃ price ∈ prices, price.planId = planId ∧ Orphan plans price := by
  rw [orphans, (handOut_left plans _ prices (holds_groups prices)).keys_iff]
  simp only [List.mem_filter, decide_eq_true_eq]
  exact exists_congr fun price => and_right_comm.trans and_assoc

theorem warns_iff (plans : List Plan) (prices : List Price) :
    Warning.ofOrphans (orphans plans prices) ≠ [] ↔ ∃ price ∈ prices, Orphan plans price := by
  have left_over : Warning.ofOrphans (orphans plans prices) ≠ [] ↔ orphans plans prices ≠ [] := by
    simp [Warning.ofOrphans]
  rw [left_over, ne_eq, List.eq_nil_iff_forall_not_mem, not_forall_not]
  simp only [mem_orphans]
  constructor
  · rintro ⟨_, price, listed, _, orphan⟩
    exact ⟨price, listed, orphan⟩
  · rintro ⟨price, listed, orphan⟩
    exact ⟨price.planId, price, listed, rfl, orphan⟩

theorem ofOrphans_once (planIds : List String) (warned : Warning.ofOrphans planIds ≠ []) :
    Warning.ofOrphans planIds = [.orphans planIds] := by
  unfold Warning.ofOrphans at warned ⊢
  split
  · simp_all
  · rfl

/-- How a catalog and the warnings about it come from a list of plans and a list of prices. -/
structure Joined (plans : List Plan) (prices : List Price) (catalog : Catalog)
    (warnings : List Warning) : Prop where
  length_kept : catalog.length = plans.length
  plan_kept : ∀ (place : Nat) (plan : Plan), plans[place]? = some plan →
    catalog[place]?.map Offer.plan = some plan
  first_takes : ∀ (place : Nat) (plan : Plan), plans[place]? = some plan →
    FirstAt plans place plan →
    catalog[place]?.map Offer.prices =
      some (prices.filter fun price => price.planId == plan.id)
  later_bare : ∀ (place : Nat) (plan : Plan), plans[place]? = some plan →
    ¬ FirstAt plans place plan → catalog[place]?.map Offer.prices = some []
  conserved : (catalog.flatMap Offer.prices ++
    prices.filter fun price => Orphan plans price).Perm prices
  warned_iff : warnings ≠ [] ↔ ∃ price ∈ prices, Orphan plans price
  warned_once : warnings ≠ [] → ∃ planIds, warnings = [.orphans planIds] ∧ planIds.Nodup ∧
    ∀ planId, planId ∈ planIds ↔ ∃ price ∈ prices, price.planId = planId ∧ Orphan plans price

/-- Every plan keeps its place, and every price is either at the first plan that it names or in the
warning. Nothing is asked of the lists: plans and prices may repeat. -/
theorem join_exact (plans : List Plan) (prices : List Price) :
    Joined plans prices (join plans prices) (Warning.ofOrphans (orphans plans prices)) := by
  constructor
  case length_kept => simpa using congrArg List.length (join_plans plans prices)
  case plan_kept =>
    intro place plan here
    rw [← List.getElem?_map, join_plans, here]
  case first_takes =>
    intro place plan here first
    rw [join_place, here]
    simp [first]
  case later_bare =>
    intro place plan here later
    rw [join_place, here]
    simp [later]
  case conserved => exact join_conserved plans prices
  case warned_iff => exact warns_iff plans prices
  case warned_once =>
    intro warned
    exact ⟨_, ofOrphans_once _ warned, Dict.keys_nodup _, mem_orphans plans prices⟩

-- The second plan repeats an id, the first price is listed twice, and one plan is missing.
example :
    let plans := [Plan.bare "P1" false, .bare "P1" true]
    let prices := [Price.monthly "PS1" "P1", .monthly "PS2" "P3", .monthly "PS1" "P1"]
    (join plans prices).map Offer.prices =
      [[.monthly "PS1" "P1", .monthly "PS1" "P1"], []] ∧
    orphans plans prices = ["P3"] := by
  decide

end Entitlement.Catalog
