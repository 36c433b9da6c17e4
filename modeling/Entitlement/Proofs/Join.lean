import Mathlib.Data.List.Nodup
import Entitlement.Proofs.Grouping
import Entitlement.Proofs.Resolution

/-!
The catalog that plans and prices are joined to. What can be looked up in it is said here in terms
of the two lists alone.
-/

namespace Entitlement.Catalog

/-- A search by id meets the first plan with that id while its group is still there. -/
theorem handOut_findPlan? (plans : List Plan) (groups : Groups) (planId : String) :
    findPlan? (handOut groups plans).1 planId =
      (plans.find? fun plan => plan.id == planId).map fun plan =>
        ⟨plan, groupOf groups planId⟩ := by
  induction plans generalizing groups with
  | nil => rfl
  | cons plan rest ih =>
      have tail := ih (groups.erase plan.id)
      unfold findPlan? at tail ⊢
      by_cases hit : plan.id = planId
      · simp [handOut, Offer.id, hit]
      · have kept : groupOf (groups.erase plan.id) planId = groupOf groups planId := by
          simp [groupOf_erase, Ne.symm hit]
        rw [kept] at tail
        simpa [handOut, Offer.id, hit] using tail

-- The joined catalog

theorem join_owned (plans : List Plan) (prices : List Price) (offer : Offer)
    (member : offer ∈ join plans prices) (price : Price) (owned : price ∈ offer.prices) :
    price.planId = offer.id := by
  obtain ⟨place, here⟩ := List.mem_iff_getElem?.mp member
  rw [join_place, Option.map_eq_some_iff] at here
  obtain ⟨plan, _, same⟩ := here
  subst offer
  split at owned
  · exact beq_iff_eq.mp (List.mem_filter.mp owned).2
  · cases owned

theorem join_findPlan? (plans : List Plan) (prices : List Price) (planId : String) :
    (join plans prices).findPlan? planId =
      (plans.find? fun plan => plan.id == planId).map fun plan =>
        ⟨plan, prices.filter fun price => price.planId == planId⟩ := by
  rw [join, handOut_findPlan?, groups_exact]

theorem join_prices (plans : List Plan) (prices : List Price) (price : Price) :
    (∃ offer ∈ join plans prices, price ∈ offer.prices) ↔
      price ∈ prices ∧ ∃ plan ∈ plans, plan.id = price.planId := by
  have conserved := (join_conserved plans prices).mem_iff (a := price)
  rw [List.mem_append, List.mem_flatMap, List.mem_filter, decide_eq_true_eq] at conserved
  constructor
  · rintro ⟨offer, member, owned⟩
    have known : offer.plan ∈ plans := by
      rw [← join_plans plans prices]
      exact List.mem_map_of_mem member
    exact ⟨conserved.mp (Or.inl ⟨offer, member, owned⟩), offer.plan, known,
      (join_owned plans prices offer member price owned).symm⟩
  · rintro ⟨listed, plan, member, same⟩
    rcases conserved.mpr listed with owned | ⟨_, orphan⟩
    · exact owned
    · exact absurd same (orphan plan member)

theorem findPlan?_join_some (plans : List Plan) (prices : List Price) (planId : String)
    (offer : Offer) :
    (join plans prices).findPlan? planId = some offer ↔
      FirstWith (fun plan => plan.id = planId) plans offer.plan ∧
        offer.prices = prices.filter fun price => price.planId == planId := by
  rw [join_findPlan?, Option.map_eq_some_iff]
  simp only [find_by_key Plan.id]
  constructor
  · rintro ⟨plan, first, same⟩
    subst offer
    exact ⟨first, rfl⟩
  · rintro ⟨first, same⟩
    exact ⟨offer.plan, first, by rw [← same]⟩

theorem findPlan?_join_none (plans : List Plan) (prices : List Price) (planId : String) :
    (join plans prices).findPlan? planId = none ↔ ∀ plan ∈ plans, plan.id ≠ planId := by
  rw [join_findPlan?, Option.map_eq_none_iff]
  exact absent_by_key Plan.id planId plans

/-- The price with an id is listed, and so is its plan. -/
def Sold (plans : List Plan) (prices : List Price) (priceId : String) (price : Price) : Prop :=
  price ∈ prices ∧ price.id = priceId ∧ ∃ plan ∈ plans, plan.id = price.planId

theorem first_price_sold (plans : List Plan) (prices : List Price) (priceId : String)
    (price : Price) (first : FirstPrice (join plans prices) priceId price) :
    Sold plans prices priceId price := by
  obtain ⟨hit, offer, member, owned⟩ := first_price_owned _ priceId price first
  obtain ⟨listed, known⟩ := (join_prices plans prices price).mp ⟨offer, member, owned⟩
  exact ⟨listed, hit, known⟩

-- With distinct ids the first price with an id is the only one, so the order of plans and prices
-- does not matter any more.
theorem findPrice?_join_some (plans : List Plan) (prices : List Price)
    (distinct : (prices.map Price.id).Nodup) (priceId : String)
    (accepted : canPriceBeFoundInCatalog priceId = true) (price : Price) :
    (join plans prices).findPrice? priceId = some price ↔ Sold plans prices priceId price := by
  rw [findPrice?_some]
  constructor
  · rintro ⟨_, first⟩
    exact first_price_sold plans prices priceId price first
  · rintro ⟨listed, hit, known⟩
    obtain ⟨offer, member, owned⟩ := (join_prices plans prices price).mpr ⟨listed, known⟩
    obtain ⟨found, first⟩ :=
      (first_price_exists _ priceId).mpr ⟨offer, member, price, owned, hit⟩
    obtain ⟨alsoListed, alsoHit, _⟩ := first_price_sold plans prices priceId found first
    have same : found = price :=
      List.inj_on_of_nodup_map distinct alsoListed listed (alsoHit.trans hit.symm)
    exact ⟨accepted, same ▸ first⟩

theorem findPrice?_join_unique (plans : List Plan) (prices : List Price)
    (distinct : (prices.map Price.id).Nodup) (priceId : String)
    (accepted : canPriceBeFoundInCatalog priceId = true) (price : Price) :
    (join plans prices).findPrice? priceId = some price ↔
      (price ∈ prices ∧ price.id = priceId ∧
        ∀ other ∈ prices, other.id = priceId → other = price) ∧
      ∃ plan ∈ plans, plan.id = price.planId := by
  rw [findPrice?_join_some plans prices distinct priceId accepted]
  constructor
  · rintro ⟨listed, hit, known⟩
    refine ⟨⟨listed, hit, ?_⟩, known⟩
    intro other alsoListed alsoHit
    exact List.inj_on_of_nodup_map distinct alsoListed listed (alsoHit.trans hit.symm)
  · rintro ⟨⟨listed, hit, _⟩, known⟩
    exact ⟨listed, hit, known⟩

theorem findPrice?_join_none (plans : List Plan) (prices : List Price)
    (distinct : (prices.map Price.id).Nodup) (priceId : String)
    (accepted : canPriceBeFoundInCatalog priceId = true) :
    (join plans prices).findPrice? priceId = none ↔
      ∀ price ∈ prices, price.id = priceId → ∀ plan ∈ plans, plan.id ≠ price.planId := by
  have sold := findPrice?_join_some plans prices distinct priceId accepted
  rw [Option.eq_none_iff_forall_ne_some]
  constructor
  · intro absent price listed hit plan member same
    exact absent price ((sold price).mpr ⟨listed, hit, plan, member, same⟩)
  · intro unsold price found
    obtain ⟨listed, hit, plan, member, same⟩ := (sold price).mp found
    exact unsold price listed hit plan member same

theorem legacyOffer?_join (plans : List Plan) (prices : List Price)
    (distinct : (prices.map Price.id).Nodup) (subscription : Subscription) (legacy : Offer)
    (billed : (join plans prices).legacyOffer? (some subscription) = some legacy)
    (priceId : String) (names : subscription.NamesPrice priceId)
    (accepted : canPriceBeFoundInCatalog priceId = true) :
    ∃ price, (join plans prices).findPrice? priceId = some price ∧ legacy.prices = [price] := by
  obtain ⟨offer, price, ⟨planId, other, _, alsoNames, firstPlan, _, firstPrice⟩, narrowed⟩ :=
    (legacyOffer?_some _ subscription legacy).mp billed
  have same := subscription.namesPrice_unique other priceId alsoNames names
  subst other
  have owned : ∃ offer ∈ join plans prices, price ∈ offer.prices :=
    ⟨offer, first_mem firstPlan, first_mem firstPrice⟩
  obtain ⟨listed, known⟩ := (join_prices plans prices price).mp owned
  have hit : price.id = priceId := first_key firstPrice
  refine ⟨price, ?_, by rw [narrowed]; rfl⟩
  exact (findPrice?_join_some plans prices distinct priceId accepted price).mpr
    ⟨listed, hit, known⟩

theorem resolve_join_agrees (plans : List Plan) (prices : List Price)
    (distinct : (prices.map Price.id).Nodup) (subscription : Subscription)
    (limits : Option Limits) (now : Int) (legacy : Offer)
    (present : (Snapshot.resolve (join plans prices) (some subscription) limits now).legacyPlan =
      some legacy)
    (priceId : String) (names : subscription.NamesPrice priceId)
    (accepted : canPriceBeFoundInCatalog priceId = true) :
    ∃ price,
      (Snapshot.resolve (join plans prices) (some subscription) limits now).price = some price ∧
      legacy.prices = [price] := by
  obtain ⟨valid, billed⟩ :=
    (Snapshot.resolve_legacyPlan_some _ subscription limits now legacy).mp present
  obtain ⟨price, found, narrowed⟩ :=
    legacyOffer?_join plans prices distinct subscription legacy billed priceId names accepted
  refine ⟨price, ?_, narrowed⟩
  rw [Snapshot.resolve_price_some, (subscription.priceId_some priceId).mpr names]
  exact ⟨valid, found⟩

/-- What the three lookups find in a joined catalog, in terms of the two lists. Plans may repeat
and prices may name plans that are not there. -/
theorem join_lookups (plans : List Plan) (prices : List Price) :
    (∀ offer ∈ join plans prices, ∀ price ∈ offer.prices, price.planId = offer.id) ∧
    (∀ planId offer, (join plans prices).findPlan? planId = some offer ↔
      FirstWith (fun plan => plan.id = planId) plans offer.plan ∧
        offer.prices = prices.filter fun price => price.planId == planId) ∧
    (∀ planId, (join plans prices).findPlan? planId = none ↔
      ∀ plan ∈ plans, plan.id ≠ planId) ∧
    ((prices.map Price.id).Nodup →
      (∀ priceId, canPriceBeFoundInCatalog priceId = true →
        (∀ price, (join plans prices).findPrice? priceId = some price ↔
          (price ∈ prices ∧ price.id = priceId ∧
            ∀ other ∈ prices, other.id = priceId → other = price) ∧
          ∃ plan ∈ plans, plan.id = price.planId) ∧
        ((join plans prices).findPrice? priceId = none ↔
          ∀ price ∈ prices, price.id = priceId → ∀ plan ∈ plans, plan.id ≠ price.planId)) ∧
      (∀ subscription limits now legacy priceId,
        (Snapshot.resolve (join plans prices) (some subscription) limits now).legacyPlan =
          some legacy →
        subscription.NamesPrice priceId → canPriceBeFoundInCatalog priceId = true →
        ∃ price,
          (Snapshot.resolve (join plans prices) (some subscription) limits now).price =
            some price ∧
          legacy.prices = [price])) := by
  refine ⟨join_owned plans prices, findPlan?_join_some plans prices,
    findPlan?_join_none plans prices, fun distinct => ⟨?price, ?legacy⟩⟩
  case price =>
    intro priceId accepted
    exact ⟨findPrice?_join_unique plans prices distinct priceId accepted,
      findPrice?_join_none plans prices distinct priceId accepted⟩
  case legacy =>
    intro subscription limits now legacy priceId present names accepted
    exact resolve_join_agrees plans prices distinct subscription limits now legacy present priceId
      names accepted

-- The first plan comes twice, and the second price names a plan that is not there.
theorem join_lookups_repeated :
    let plans := [Plan.bare "P1" true, .bare "P2" false, .bare "P1" false]
    let prices := [Price.monthly "PS2" "P2", .monthly "PS3" "P3", .monthly "PS1" "P1"]
    (prices.map Price.id).Nodup ∧
    (join plans prices).findPlan? "P1" = some ⟨.bare "P1" true, [.monthly "PS1" "P1"]⟩ ∧
    (join plans prices).findPrice? "PS2" = some (.monthly "PS2" "P2") ∧
    (join plans prices).findPrice? "PS3" = none ∧
    ∃ legacy price,
      (Snapshot.resolve (join plans prices) (some (.naming "P1" "PS1")) none 0).legacyPlan =
        some legacy ∧
      (Snapshot.resolve (join plans prices) (some (.naming "P1" "PS1")) none 0).price =
        some price ∧
      legacy.prices = [price] := by
  intro plans prices
  have distinct : (prices.map Price.id).Nodup := by decide
  obtain ⟨_, plan, _, unique⟩ := join_lookups plans prices
  obtain ⟨price, agree⟩ := unique distinct
  have known : canPriceBeFoundInCatalog "PS2" = true := by decide
  have billed : (Snapshot.resolve (join plans prices) (some (.naming "P1" "PS1")) none
      0).legacyPlan = some ⟨.bare "P1" true, [.monthly "PS1" "P1"]⟩ := by decide
  refine ⟨distinct, ?first, ?listed, ?orphan, ?agreement⟩
  case first =>
    exact (plan "P1" _).mpr ⟨⟨[], _, rfl, rfl, by simp⟩, by decide⟩
  case listed =>
    refine ((price "PS2" known).1 _).mpr ⟨⟨List.mem_cons_self, rfl, by decide⟩, ?_⟩
    exact ⟨.bare "P2" false, by decide, rfl⟩
  case orphan =>
    exact (price "PS3" (by decide)).2.mpr (by decide)
  case agreement =>
    obtain ⟨found, present, narrowed⟩ := agree (.naming "P1" "PS1") none 0 _ "PS1" billed
      ⟨rfl, by decide⟩ (by decide)
    exact ⟨_, found, billed, present, narrowed⟩

end Entitlement.Catalog
