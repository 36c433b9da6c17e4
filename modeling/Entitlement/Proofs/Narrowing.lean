import Entitlement.Proofs.Grouping
import Entitlement.Proofs.Lookup

/-!
Narrowing a catalog to what can be bought now. Whether an offer stays, and at which prices, depends
on that offer alone; so it makes no difference whether prices are left out before the plans take
them or after.
-/

namespace Entitlement

namespace Offer

def OnSale (offer : Offer) : Prop := ∃ price ∈ offer.prices, price.status = .active

instance (offer : Offer) : Decidable offer.OnSale :=
  inferInstanceAs (Decidable (∃ price ∈ offer.prices, price.status = .active))

def keeping (offer : Offer) (kept : Price → Bool) : Offer :=
  offer.withPrices (offer.prices.filter kept)

theorem onSale_iff (offer : Offer) :
    offer.OnSale ↔ (offer.keeping Price.isActive).prices ≠ [] := by
  unfold OnSale keeping withPrices Price.isActive
  simp

end Offer

namespace Catalog

theorem withActivePrices?_eq (offer : Offer) :
    withActivePrices? offer =
      if offer.OnSale then some (offer.keeping Price.isActive) else none := by
  simp only [withActivePrices?, offer.onSale_iff, List.isEmpty_iff, ite_not]
  rfl

theorem available_eq (catalog : Catalog) :
    catalog.available =
      (catalog.filter fun offer => offer.OnSale).map fun offer =>
        offer.keeping Price.isActive := by
  induction catalog with
  | nil => rfl
  | cons offer rest ih =>
      unfold available at ih ⊢
      rw [List.filterMap_cons, withActivePrices?_eq]
      by_cases onSale : offer.OnSale
      · simp [onSale, ih]
      · simp [onSale, ih]

theorem keeping_again (offer : Offer) (kept : Price → Bool) :
    (offer.keeping kept).keeping kept = offer.keeping kept := by
  simp [Offer.keeping, Offer.withPrices]

theorem available_again (catalog : Catalog) : catalog.available.available = catalog.available := by
  simp only [available, List.filterMap_filterMap]
  apply List.filterMap_congr
  intro offer _
  by_cases onSale : offer.OnSale
  · have still : (offer.keeping Price.isActive).OnSale := by
      rw [Offer.onSale_iff, keeping_again]
      exact offer.onSale_iff.mp onSale
    simp [withActivePrices?_eq, onSale, still, keeping_again]
  · simp [withActivePrices?_eq, onSale]

-- Both passes of the join look at one price at a time, so leaving prices out commutes with them.
theorem join_keeping (plans : List Plan) (prices : List Price) (kept : Price → Bool) :
    join plans (prices.filter kept) =
      (join plans prices).map fun offer => offer.keeping kept := by
  apply List.ext_getElem?
  intro place
  rw [List.getElem?_map, join_place, join_place, Option.map_map]
  apply Option.map_congr
  intro plan _
  by_cases first : FirstAt plans place plan
  · simp [Offer.keeping, Offer.withPrices, first, Bool.and_comm]
  · simp [Offer.keeping, Offer.withPrices, first]

theorem available_join (plans : List Plan) (prices : List Price) :
    (join plans prices).available =
      (join plans (prices.filter Price.isActive)).filter fun offer => offer.prices ≠ [] := by
  rw [available_eq, join_keeping, List.filter_map]
  apply congrArg
  apply List.filter_congr
  intro offer _
  simp [offer.onSale_iff]

/-- Leaving inactive prices out before the join or after it comes to the same, once the plans
without a price are gone. Each offer is kept or not, and narrowed, for itself alone, and narrowing
twice is narrowing once. -/
theorem narrowing_commutes :
    (∀ plans prices, (join plans prices).available =
      (join plans (prices.filter Price.isActive)).filter fun offer => offer.prices ≠ []) ∧
    (∀ catalog more : Catalog, available (catalog ++ more) = catalog.available ++ more.available) ∧
    (∀ catalog : Catalog, catalog.available =
      (catalog.filter fun offer => offer.OnSale).map fun offer =>
        ⟨offer.plan, offer.prices.filter Price.isActive⟩) ∧
    (∀ catalog : Catalog, catalog.available.available = catalog.available) := by
  refine ⟨available_join, ?_, available_eq, available_again⟩
  intro catalog more
  exact List.filterMap_append

-- The plan comes twice; its first entry takes both prices, and one of them is active.
example :
    let plans := [Plan.bare "P1" false, .bare "P1" true]
    let inactive := { Price.monthly "PS1" "P1" with status := .inactive }
    (join plans [inactive, .monthly "PS2" "P1", .monthly "PS3" "P3"]).available =
      [⟨.bare "P1" false, [.monthly "PS2" "P1"]⟩] := by
  decide

end Catalog

end Entitlement
