import Entitlement.Plan
import Entitlement.Subscription

/-!
The catalog: plans with their prices, in the order in which they are shown. It is made by joining a
list of plans with a list of prices. Everything that looks something up takes the first match.
-/

namespace Entitlement

abbrev Catalog := List Offer

namespace Catalog

def findPlan? (catalog : Catalog) (planId : String) : Option Offer :=
  catalog.find? fun offer => offer.id == planId

/-- The price with an id, in any plan. An id that cannot name a catalog price finds none. -/
def findPrice? (catalog : Catalog) (priceId : String) : Option Price :=
  if canPriceBeFoundInCatalog priceId then
    (catalog.flatMap Offer.prices).find? fun price => price.id == priceId
  else none

def withActivePrices? (offer : Offer) : Option Offer :=
  let active := offer.prices.filter Price.isActive
  if active.isEmpty then none else some (offer.withPrices active)

/-- What can be bought now: each plan at its active prices, plans without one left out. -/
def available (catalog : Catalog) : Catalog :=
  catalog.filterMap withActivePrices?

/-- The legacy plan that a subscription is still billed for, at that one price. -/
def legacyOffer? (catalog : Catalog) (subscription : Option Subscription) : Option Offer := do
  let subscription ← subscription
  let planId ← subscription.planId
  let priceId ← subscription.priceId
  let offer ← catalog.findPlan? planId
  if offer.isLegacy then
    let price ← offer.prices.find? fun price => price.id == priceId
    return offer.withPrices [price]
  else none

-- Joining

abbrev Groups := Dict (List Price)

def groupOf (groups : Groups) (planId : String) : List Price :=
  (groups.get? planId).getD []

def addToGroup (groups : Groups) (price : Price) : Groups :=
  groups.insert price.planId (groupOf groups price.planId ++ [price])

def groupByPlan (prices : List Price) : Groups := prices.foldl addToGroup .empty

/-- Each plan takes the group of its id along, so of several plans with one id the first takes it.
What is left over belongs to no plan. -/
def handOut (groups : Groups) : List Plan → Catalog × Groups
  | [] => ([], groups)
  | plan :: rest =>
      let (offers, left) := handOut (groups.erase plan.id) rest
      (⟨plan, groupOf groups plan.id⟩ :: offers, left)

def join (plans : List Plan) (prices : List Price) : Catalog :=
  (handOut (groupByPlan prices) plans).1

/-- Ids of plans that prices name and the list of plans lacks, in ascending order. -/
def orphans (plans : List Plan) (prices : List Price) : List String :=
  (handOut (groupByPlan prices) plans).2.keys

end Catalog

end Entitlement
