import Mathlib.Data.List.Nodup
import Entitlement.Proofs.Narrowing

/-!
Catalogs in which no id occurs twice. There the first match of a search is the only one, so what a
lookup finds depends on what the catalog holds and not on the places at which it stands.
-/

namespace Entitlement

/-- With distinct keys the first element with a key is the one element that has it. -/
theorem first_distinct {α : Type} (key : α → String) (wanted : String) (list : List α)
    (distinct : (list.map key).Nodup) (found : α) :
    FirstWith (fun candidate => key candidate = wanted) list found ↔
      found ∈ list ∧ key found = wanted := by
  constructor
  · intro first
    exact ⟨first_mem first, first_key first⟩
  · rintro ⟨member, hit⟩
    obtain ⟨other, first⟩ := (first_by_key_exists key wanted list).mpr ⟨found, member, hit⟩
    have otherHit : key other = wanted := first_key first
    have same : other = found :=
      List.inj_on_of_nodup_map distinct (first_mem first) member (otherHit.trans hit.symm)
    exact same ▸ first

namespace Catalog

/-- No two plans have one id, and no two prices, be they of one plan or of two. -/
structure DistinctIds (catalog : Catalog) : Prop where
  plans : (catalog.map Offer.id).Nodup
  prices : ((catalog.flatMap Offer.prices).map Price.id).Nodup

namespace DistinctIds

variable {catalog : Catalog}

theorem offer_prices (distinct : catalog.DistinctIds) (offer : Offer) (member : offer ∈ catalog) :
    (offer.prices.map Price.id).Nodup := by
  have part : offer.prices.Sublist (catalog.flatMap Offer.prices) :=
    List.sublist_flatten_of_mem (List.mem_map_of_mem member)
  exact distinct.prices.sublist (part.map Price.id)

theorem findPlan?_iff (distinct : catalog.DistinctIds) (planId : String) (offer : Offer) :
    catalog.findPlan? planId = some offer ↔ offer ∈ catalog ∧ offer.id = planId := by
  rw [findPlan?_some, first_distinct Offer.id planId catalog distinct.plans]

theorem findPrice?_iff (distinct : catalog.DistinctIds) (priceId : String) (price : Price) :
    catalog.findPrice? priceId = some price ↔
      canPriceBeFoundInCatalog priceId = true ∧ price ∈ catalog.flatMap Offer.prices ∧
        price.id = priceId := by
  rw [findPrice?_some, ← find_across_plans, find_by_key,
    first_distinct Price.id priceId _ distinct.prices]

theorem billedFor_iff (distinct : catalog.DistinctIds) (subscription : Subscription)
    (offer : Offer) (price : Price) :
    BilledFor catalog subscription offer price ↔
      subscription.NamesPlan offer.id ∧ subscription.NamesPrice price.id ∧ offer ∈ catalog ∧
        offer.isLegacy = true ∧ price ∈ offer.prices := by
  unfold BilledFor
  simp only [first_distinct Offer.id _ catalog distinct.plans]
  constructor
  · rintro ⟨planId, priceId, namesPlan, namesPrice, ⟨member, rfl⟩, isLegacy, firstPrice⟩
    obtain ⟨owned, rfl⟩ := (first_distinct Price.id priceId offer.prices
      (distinct.offer_prices offer member) price).mp firstPrice
    exact ⟨namesPlan, namesPrice, member, isLegacy, owned⟩
  · rintro ⟨namesPlan, namesPrice, member, isLegacy, owned⟩
    refine ⟨offer.id, price.id, namesPlan, namesPrice, ⟨member, rfl⟩, isLegacy, ?_⟩
    exact (first_distinct Price.id price.id offer.prices (distinct.offer_prices offer member)
      price).mpr ⟨owned, rfl⟩

theorem legacyOffer?_iff (distinct : catalog.DistinctIds) (subscription : Subscription)
    (legacy : Offer) :
    catalog.legacyOffer? (some subscription) = some legacy ↔
      ∃ offer price, subscription.NamesPlan offer.id ∧ subscription.NamesPrice price.id ∧
        offer ∈ catalog ∧ offer.isLegacy = true ∧ price ∈ offer.prices ∧
        legacy = offer.withPrices [price] := by
  simp only [legacyOffer?_some, distinct.billedFor_iff, and_assoc]

end DistinctIds

end Catalog

end Entitlement
