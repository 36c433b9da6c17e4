import Entitlement.Proofs.Distinct

/-!
Lookups in a narrowed catalog. A plan or a price that is left out could reveal one behind it with
the same id. Where ids are distinct nothing stands behind, and a lookup finds what it found before,
as far as that is still on sale.
-/

namespace Entitlement

namespace Offer

theorem single_onSale (offer : Offer) (price : Price) :
    (offer.withPrices [price]).OnSale ↔ price.status = .active := by
  simp [OnSale, withPrices]

end Offer

namespace Catalog

theorem mem_available (catalog : Catalog) (offer : Offer) :
    offer ∈ catalog.available ↔
      ∃ full ∈ catalog, full.OnSale ∧ full.keeping Price.isActive = offer := by
  rw [available_eq, List.mem_map]
  simp only [List.mem_filter, decide_eq_true_eq, and_assoc]

theorem mem_keeping (offer : Offer) (price : Price) :
    price ∈ (offer.keeping Price.isActive).prices ↔
      price ∈ offer.prices ∧ price.status = .active := by
  simp [Offer.keeping, Offer.withPrices, Price.isActive]

theorem available_ids (catalog : Catalog) :
    (catalog.available.map Offer.id).Sublist (catalog.map Offer.id) := by
  rw [available_eq, List.map_map]
  exact List.filter_sublist.map Offer.id

-- A plan that is left out had no price to contribute.
theorem available_prices (catalog : Catalog) :
    catalog.available.flatMap Offer.prices =
      (catalog.flatMap Offer.prices).filter Price.isActive := by
  induction catalog with
  | nil => rfl
  | cons offer rest ih =>
      unfold available at ih ⊢
      rw [List.filterMap_cons, withActivePrices?_eq, List.flatMap_cons, List.filter_append, ← ih]
      by_cases onSale : offer.OnSale
      · rw [if_pos onSale]
        rfl
      · have empty : offer.prices.filter Price.isActive = [] := by
          by_contra kept
          exact onSale (offer.onSale_iff.mpr kept)
        rw [if_neg onSale, empty, List.nil_append]

namespace DistinctIds

variable {catalog : Catalog}

theorem available (distinct : catalog.DistinctIds) : catalog.available.DistinctIds where
  plans := distinct.plans.sublist catalog.available_ids
  prices := by
    rw [available_prices]
    exact distinct.prices.sublist (List.filter_sublist.map Price.id)

theorem findPlan?_available (distinct : catalog.DistinctIds) (planId : String) :
    catalog.available.findPlan? planId =
      ((catalog.findPlan? planId).filter fun offer => offer.OnSale).map fun offer =>
        offer.keeping Price.isActive := by
  apply Option.ext
  intro found
  rw [distinct.available.findPlan?_iff, mem_available]
  simp only [Option.map_eq_some_iff, Option.filter_eq_some_iff, distinct.findPlan?_iff,
    decide_eq_true_eq]
  constructor
  · rintro ⟨⟨full, member, onSale, rfl⟩, hit⟩
    exact ⟨full, ⟨⟨member, hit⟩, onSale⟩, rfl⟩
  · rintro ⟨full, ⟨⟨member, hit⟩, onSale⟩, rfl⟩
    exact ⟨⟨full, member, onSale, rfl⟩, hit⟩

theorem findPrice?_available (distinct : catalog.DistinctIds) (priceId : String) :
    catalog.available.findPrice? priceId =
      (catalog.findPrice? priceId).filter fun price => price.status = .active := by
  apply Option.ext
  intro price
  rw [distinct.available.findPrice?_iff, available_prices, List.mem_filter,
    Option.filter_eq_some_iff, distinct.findPrice?_iff, decide_eq_true_eq, Price.isActive,
    beq_iff_eq]
  constructor
  · rintro ⟨accepted, ⟨listed, active⟩, hit⟩
    exact ⟨⟨accepted, listed, hit⟩, active⟩
  · rintro ⟨⟨accepted, listed, hit⟩, active⟩
    exact ⟨accepted, ⟨listed, active⟩, hit⟩

theorem legacyOffer?_available (distinct : catalog.DistinctIds)
    (subscription : Option Subscription) :
    catalog.available.legacyOffer? subscription =
      (catalog.legacyOffer? subscription).filter fun legacy => legacy.OnSale := by
  cases subscription with
  | none => rfl
  | some subscription =>
      apply Option.ext
      intro legacy
      rw [distinct.available.legacyOffer?_iff, Option.filter_eq_some_iff,
        distinct.legacyOffer?_iff, decide_eq_true_eq]
      constructor
      · rintro ⟨offer, price, namesPlan, namesPrice, member, isLegacy, owned, rfl⟩
        obtain ⟨full, memberFull, _, rfl⟩ := (mem_available catalog offer).mp member
        obtain ⟨ownedFull, active⟩ := (mem_keeping full price).mp owned
        exact ⟨⟨full, price, namesPlan, namesPrice, memberFull, isLegacy, ownedFull, rfl⟩,
          (full.single_onSale price).mpr active⟩
      · rintro ⟨⟨full, price, namesPlan, namesPrice, member, isLegacy, owned, rfl⟩, onSale⟩
        have active : price.status = .active := (full.single_onSale price).mp onSale
        have memberKept : full.keeping Price.isActive ∈ catalog.available :=
          (mem_available catalog _).mpr ⟨full, member, ⟨price, owned, active⟩, rfl⟩
        exact ⟨full.keeping Price.isActive, price, namesPlan, namesPrice, memberKept, isLegacy,
          (mem_keeping full price).mpr ⟨owned, active⟩, rfl⟩

end DistinctIds

theorem legacyOffer?_single (catalog : Catalog) (subscription : Option Subscription)
    (legacy : Offer) (billed : catalog.legacyOffer? subscription = some legacy) :
    ∃ price, legacy.prices = [price] := by
  cases subscription with
  | none => cases billed
  | some subscription =>
      obtain ⟨offer, price, _, rfl⟩ := (legacyOffer?_some catalog subscription legacy).mp billed
      exact ⟨price, rfl⟩

/-- The legacy offer is found again in the catalog that it makes up alone. -/
theorem legacyOffer?_alone (catalog : Catalog) (subscription : Option Subscription)
    (legacy : Offer) (billed : catalog.legacyOffer? subscription = some legacy) :
    legacyOffer? [legacy] subscription = some legacy := by
  cases subscription with
  | none => cases billed
  | some subscription =>
      obtain ⟨offer, price, ⟨planId, priceId, namesPlan, namesPrice, firstPlan, isLegacy,
        firstPrice⟩, rfl⟩ := (legacyOffer?_some catalog subscription legacy).mp billed
      have planHit : offer.id = planId := first_key firstPlan
      have priceHit : price.id = priceId := first_key firstPrice
      refine (legacyOffer?_some _ subscription _).mpr ⟨offer.withPrices [price], price, ?_, rfl⟩
      exact ⟨planId, priceId, namesPlan, namesPrice, ⟨[], [], rfl, planHit, by simp⟩, isLegacy,
        ⟨[], [], rfl, priceHit, by simp⟩⟩

/-- What the lookups of a narrowed catalog find, in terms of the full one. -/
structure LookedUpNarrowed (catalog narrowed : Catalog) : Prop where
  plan : ∀ planId, narrowed.findPlan? planId =
    ((catalog.findPlan? planId).filter fun offer => offer.OnSale).map fun offer =>
      ⟨offer.plan, offer.prices.filter Price.isActive⟩
  price : ∀ priceId, narrowed.findPrice? priceId =
    (catalog.findPrice? priceId).filter fun price => price.status = .active
  legacy : ∀ subscription, narrowed.legacyOffer? subscription =
    (catalog.legacyOffer? subscription).filter fun legacy => legacy.OnSale
  legacy_single : ∀ subscription legacy, catalog.legacyOffer? subscription = some legacy →
    ∃ price, legacy.prices = [price]

/-- Where ids are distinct, narrowing first and looking up then comes to looking up first and asking
then whether what was found is on sale. A legacy offer stands on its own in every catalog. -/
theorem narrowed_lookups :
    (∀ catalog : Catalog, catalog.DistinctIds → LookedUpNarrowed catalog catalog.available) ∧
    (∀ (catalog : Catalog) subscription legacy,
      catalog.legacyOffer? subscription = some legacy →
        legacyOffer? [legacy] subscription = some legacy) := by
  refine ⟨?narrowed, legacyOffer?_alone⟩
  case narrowed =>
    intro catalog distinct
    exact {
      plan := distinct.findPlan?_available
      price := distinct.findPrice?_available
      legacy := distinct.legacyOffer?_available
      legacy_single := catalog.legacyOffer?_single }

def clearance : Catalog :=
  [⟨.bare "P1" true, [{ Price.monthly "PS1" "P1" with status := .inactive }, .monthly "PS2" "P1"]⟩,
    ⟨.bare "P2" false, [{ Price.monthly "PS3" "P2" with status := .inactive }]⟩]

theorem clearance_lookups :
    clearance.DistinctIds ∧
    clearance.available.findPlan? "P1" = some ⟨.bare "P1" true, [.monthly "PS2" "P1"]⟩ ∧
    clearance.available.findPlan? "P2" = none ∧
    clearance.available.findPrice? "PS1" = none ∧
    clearance.available.legacyOffer? (some (.naming "P1" "PS1")) = none ∧
    clearance.legacyOffer? (some (.naming "P1" "PS2")) =
      some ⟨.bare "P1" true, [.monthly "PS2" "P1"]⟩ ∧
    legacyOffer? [⟨.bare "P1" true, [.monthly "PS2" "P1"]⟩] (some (.naming "P1" "PS2")) =
      some ⟨.bare "P1" true, [.monthly "PS2" "P1"]⟩ := by
  obtain ⟨narrowed, alone⟩ := narrowed_lookups
  have distinct : clearance.DistinctIds := ⟨by decide, by decide⟩
  have billed : clearance.legacyOffer? (some (.naming "P1" "PS2")) =
      some ⟨.bare "P1" true, [.monthly "PS2" "P1"]⟩ := by decide
  obtain ⟨plan, price, legacy, _⟩ := narrowed clearance distinct
  refine ⟨distinct, ?kept, ?dropped, ?old, ?outdated, billed, alone clearance _ _ billed⟩
  case kept =>
    rw [plan]
    decide
  case dropped =>
    rw [plan]
    decide
  case old =>
    rw [price]
    decide
  case outdated =>
    rw [legacy]
    decide

end Catalog

end Entitlement
