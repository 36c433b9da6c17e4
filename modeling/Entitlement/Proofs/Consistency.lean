import Entitlement.Proofs.Resolution

/-!
The parts of a snapshot are worked out one by one, each with a lookup of its own. Here is how they
hang together, for every catalog: ids that occur more than once stand for their first occurrence.
-/

namespace Entitlement

namespace Snapshot

/-- How the parts of a snapshot hang together. -/
structure Consistent (catalog : Catalog) (subscription : Option Subscription) (now : Int)
    (snapshot : Snapshot) : Prop where
  valid_iff : snapshot.hasValidPlan = true ↔
    ∃ named planId, subscription = some named ∧ named.Gives planId now
  valid_iff_planId : snapshot.hasValidPlan = true ↔ snapshot.planId.isSome = true
  valid_iff_origin : snapshot.hasValidPlan = true ↔ snapshot.origin ≠ .none
  invalid_bare : snapshot.hasValidPlan = false →
    snapshot.plan = none ∧ snapshot.price = none ∧ snapshot.legacyPlan = none ∧
      snapshot.canBenefitFromDiscordRole = false
  planId_given : ∀ planId, snapshot.planId = some planId →
    ∃ named, subscription = some named ∧ named.Gives planId now
  plan_iff : ∀ offer, snapshot.plan = some offer ↔
    ∃ planId, snapshot.planId = some planId ∧
      FirstWith (fun candidate => candidate.id = planId) catalog offer
  plan_unknown : ∀ planId, snapshot.planId = some planId → snapshot.plan = none →
    ∀ offer ∈ catalog, offer.id ≠ planId
  price_iff : snapshot.price.isSome = true ↔
    snapshot.hasValidPlan = true ∧ snapshot.canPriceBeFoundInCatalog = true ∧
      ∃ named priceId, subscription = some named ∧ named.NamesPrice priceId ∧
        ∃ offer ∈ catalog, ∃ price ∈ offer.prices, price.id = priceId
  price_first : ∀ price, snapshot.price = some price →
    ∃ named priceId, subscription = some named ∧ named.NamesPrice priceId ∧
      FirstPrice catalog priceId price
  legacy_iff : snapshot.legacyPlan.isSome = true ↔
    ∃ offer named priceId, snapshot.plan = some offer ∧ offer.isLegacy = true ∧
      subscription = some named ∧ named.NamesPrice priceId ∧
      ∃ price ∈ offer.prices, price.id = priceId
  legacy_narrowed : ∀ legacy, snapshot.legacyPlan = some legacy →
    ∃ offer named priceId price, snapshot.plan = some offer ∧ subscription = some named ∧
      named.NamesPrice priceId ∧
      FirstWith (fun candidate => candidate.id = priceId) offer.prices price ∧
      legacy.plan = offer.plan ∧ legacy.prices = [price]

theorem lapsed_consistent (catalog : Catalog) (subscription : Option Subscription)
    (limits : Option Limits) (now : Int)
    (invalid : Eligibility.hasValidSubscriptionPlan subscription now = false) :
    Consistent catalog subscription now (lapsed subscription limits) := by
  have given : ∀ named planId, subscription = some named → ¬ named.Gives planId now := by
    intro named planId same gives
    have valid : named.hasValidPlan now = true :=
      (named.hasValidPlan_iff now).mpr ⟨planId, gives⟩
    subst subscription
    have refused : named.hasValidPlan now = false := invalid
    rw [refused] at valid
    cases valid
  exact {
    valid_iff := by
      constructor
      · intro absurdity
        cases absurdity
      · rintro ⟨named, planId, same, gives⟩
        exact absurd gives (given named planId same)
    valid_iff_planId := by simp [lapsed]
    valid_iff_origin := by simp [lapsed]
    invalid_bare := fun _ => ⟨rfl, rfl, rfl, rfl⟩
    planId_given := by simp [lapsed]
    plan_iff := by simp [lapsed]
    plan_unknown := by simp [lapsed]
    price_iff := by simp [lapsed]
    price_first := by simp [lapsed]
    legacy_iff := by simp [lapsed]
    legacy_narrowed := by simp [lapsed] }

theorem granted_origin (subscription : Subscription) :
    Origin.ofSubscription subscription ≠ .none := by
  unfold Origin.ofSubscription
  repeat' split
  all_goals
    intro absurdity
    cases absurdity

theorem granted_plan_some (catalog : Catalog) (subscription : Subscription)
    (limits : Option Limits) (offer : Offer) :
    (granted catalog subscription limits).plan = some offer ↔
      ∃ planId, subscription.NamesPlan planId ∧
        FirstWith (fun candidate => candidate.id = planId) catalog offer := by
  simp only [granted, Option.bind_eq_some_iff, Subscription.planId_some, Catalog.findPlan?_some]

theorem granted_price_some (catalog : Catalog) (subscription : Subscription)
    (limits : Option Limits) (price : Price) :
    (granted catalog subscription limits).price = some price ↔
      ∃ priceId, subscription.NamesPrice priceId ∧
        Entitlement.canPriceBeFoundInCatalog priceId = true ∧ FirstPrice catalog priceId price := by
  simp only [granted, Option.bind_eq_some_iff, Subscription.priceId_some, Catalog.findPrice?_some]

theorem granted_legacy_some (catalog : Catalog) (subscription : Subscription)
    (limits : Option Limits) (legacy : Offer) :
    (granted catalog subscription limits).legacyPlan = some legacy ↔
      ∃ offer priceId price, (granted catalog subscription limits).plan = some offer ∧
        offer.isLegacy = true ∧ subscription.NamesPrice priceId ∧
        FirstWith (fun candidate => candidate.id = priceId) offer.prices price ∧
        legacy = offer.withPrices [price] := by
  simp only [granted_plan_some]
  refine (Catalog.legacyOffer?_some catalog subscription legacy).trans ?_
  constructor
  · rintro ⟨offer, price, ⟨planId, priceId, namesPlan, namesPrice, firstPlan, isLegacy,
      firstPrice⟩, same⟩
    exact ⟨offer, priceId, price, ⟨planId, namesPlan, firstPlan⟩, isLegacy, namesPrice,
      firstPrice, same⟩
  · rintro ⟨offer, priceId, price, ⟨planId, namesPlan, firstPlan⟩, isLegacy, namesPrice,
      firstPrice, same⟩
    exact ⟨offer, price, ⟨planId, priceId, namesPlan, namesPrice, firstPlan, isLegacy,
      firstPrice⟩, same⟩

theorem granted_price_known (catalog : Catalog) (subscription : Subscription)
    (limits : Option Limits) :
    (granted catalog subscription limits).canPriceBeFoundInCatalog = true ↔
      ∃ priceId, subscription.NamesPrice priceId ∧
        Entitlement.canPriceBeFoundInCatalog priceId = true := by
  simp only [granted, Option.any_eq_true, Subscription.priceId_some]

theorem granted_price_present (catalog : Catalog) (subscription : Subscription)
    (limits : Option Limits) :
    (granted catalog subscription limits).price.isSome = true ↔
      (granted catalog subscription limits).canPriceBeFoundInCatalog = true ∧
        ∃ priceId, subscription.NamesPrice priceId ∧
          ∃ offer ∈ catalog, ∃ price ∈ offer.prices, price.id = priceId := by
  simp only [Option.isSome_iff_exists, granted_price_some, granted_price_known,
    ← Catalog.first_price_exists]
  constructor
  · rintro ⟨price, priceId, names, accepted, first⟩
    exact ⟨⟨priceId, names, accepted⟩, priceId, names, price, first⟩
  · rintro ⟨⟨accepted, names, known⟩, priceId, alsoNames, price, first⟩
    have same := subscription.namesPrice_unique accepted priceId names alsoNames
    subst accepted
    exact ⟨price, priceId, names, known, first⟩

theorem granted_legacy_present (catalog : Catalog) (subscription : Subscription)
    (limits : Option Limits) :
    (granted catalog subscription limits).legacyPlan.isSome = true ↔
      ∃ offer priceId, (granted catalog subscription limits).plan = some offer ∧
        offer.isLegacy = true ∧ subscription.NamesPrice priceId ∧
        ∃ price ∈ offer.prices, price.id = priceId := by
  simp only [Option.isSome_iff_exists, granted_legacy_some, ← first_by_key_exists Price.id]
  constructor
  · rintro ⟨_, offer, priceId, price, found, isLegacy, names, first, _⟩
    exact ⟨offer, priceId, found, isLegacy, names, price, first⟩
  · rintro ⟨offer, priceId, found, isLegacy, names, price, first⟩
    exact ⟨_, offer, priceId, price, found, isLegacy, names, first, rfl⟩

theorem granted_consistent (catalog : Catalog) (subscription : Subscription)
    (limits : Option Limits) (now : Int) (valid : subscription.hasValidPlan now = true) :
    Consistent catalog (some subscription) now (granted catalog subscription limits) := by
  obtain ⟨given, names, inTime⟩ := (subscription.hasValidPlan_iff now).mp valid
  have found : (granted catalog subscription limits).planId = some given :=
    (subscription.planId_some given).mpr names
  exact {
    valid_iff := ⟨fun _ => ⟨subscription, given, rfl, names, inTime⟩, fun _ => rfl⟩
    valid_iff_planId := by
      rw [found]
      simp [granted]
    valid_iff_origin := ⟨fun _ => granted_origin subscription, fun _ => rfl⟩
    invalid_bare := by simp [granted]
    planId_given := by
      intro planId same
      exact ⟨subscription, rfl, (subscription.planId_some planId).mp same, inTime⟩
    plan_iff := by
      intro offer
      rw [granted_plan_some]
      exact exists_congr fun planId =>
        and_congr_left fun _ => (subscription.planId_some planId).symm
    plan_unknown := by
      intro planId same absent
      have search : catalog.findPlan? planId = none := by
        have step : subscription.planId = some planId := same
        simpa [granted, step] using absent
      exact (catalog.findPlan?_none planId).mp search
    price_iff := by
      rw [granted_price_present]
      constructor
      · rintro ⟨known, priceId, namesPrice, owned⟩
        exact ⟨rfl, known, subscription, priceId, rfl, namesPrice, owned⟩
      · rintro ⟨_, known, named, priceId, same, namesPrice, owned⟩
        cases same
        exact ⟨known, priceId, namesPrice, owned⟩
    price_first := by
      intro price present
      obtain ⟨priceId, namesPrice, _, first⟩ :=
        (granted_price_some catalog subscription limits price).mp present
      exact ⟨subscription, priceId, rfl, namesPrice, first⟩
    legacy_iff := by
      rw [granted_legacy_present]
      constructor
      · rintro ⟨offer, priceId, plan, isLegacy, namesPrice, owned⟩
        exact ⟨offer, subscription, priceId, plan, isLegacy, rfl, namesPrice, owned⟩
      · rintro ⟨offer, named, priceId, plan, isLegacy, same, namesPrice, owned⟩
        cases same
        exact ⟨offer, priceId, plan, isLegacy, namesPrice, owned⟩
    legacy_narrowed := by
      intro legacy present
      obtain ⟨offer, priceId, price, plan, isLegacy, namesPrice, first, same⟩ :=
        (granted_legacy_some catalog subscription limits legacy).mp present
      subst legacy
      exact ⟨offer, subscription, priceId, price, plan, rfl, namesPrice, first, rfl, rfl⟩ }

/-- Every snapshot is consistent: no catalog, however its ids repeat, and no subscription makes
the separate lookups disagree. -/
theorem resolve_consistent (catalog : Catalog) (subscription : Option Subscription)
    (limits : Option Limits) (now : Int) :
    Consistent catalog subscription now (resolve catalog subscription limits now) := by
  rcases resolve_cases catalog subscription limits now with
    ⟨named, same, valid, granting⟩ | ⟨invalid, lapsing⟩
  · rw [granting, same]
    exact granted_consistent catalog named limits now valid
  · rw [lapsing]
    exact lapsed_consistent catalog subscription limits now invalid

end Snapshot

end Entitlement
