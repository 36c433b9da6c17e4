import Entitlement.Catalog

/-!
What the lookups of a catalog find, said without the search. Each takes the first match, so a plan
or a price that comes later under an id that was used before is never seen.
-/

namespace Entitlement

def FirstWith {α : Type} (wanted : α → Prop) (list : List α) (found : α) : Prop :=
  ∃ before after, list = before ++ found :: after ∧ wanted found ∧
    ∀ earlier ∈ before, ¬ wanted earlier

theorem first_mem {α : Type} {wanted : α → Prop} {list : List α} {found : α}
    (first : FirstWith wanted list found) : found ∈ list := by
  obtain ⟨before, after, same, _, _⟩ := first
  rw [same]
  simp

theorem first_key {α : Type} {key : α → String} {wanted : String} {list : List α} {found : α}
    (first : FirstWith (fun candidate => key candidate = wanted) list found) :
    key found = wanted := by
  obtain ⟨_, _, _, hit, _⟩ := first
  exact hit

theorem find_by_key {α : Type} (key : α → String) (wanted : String) (list : List α) (found : α) :
    list.find? (fun candidate => key candidate == wanted) = some found ↔
      FirstWith (fun candidate => key candidate = wanted) list found := by
  rw [List.find?_eq_some_iff_append]
  constructor
  · rintro ⟨hit, before, after, same, missed⟩
    exact ⟨before, after, same, by simpa using hit, by simpa using missed⟩
  · rintro ⟨before, after, same, hit, missed⟩
    exact ⟨by simpa using hit, before, after, same, by simpa using missed⟩

theorem absent_by_key {α : Type} (key : α → String) (wanted : String) (list : List α) :
    list.find? (fun candidate => key candidate == wanted) = none ↔
      ∀ candidate ∈ list, key candidate ≠ wanted := by
  simp

theorem first_by_key_exists {α : Type} (key : α → String) (wanted : String) (list : List α) :
    (∃ found, FirstWith (fun candidate => key candidate = wanted) list found) ↔
      ∃ candidate ∈ list, key candidate = wanted := by
  constructor
  · rintro ⟨found, first⟩
    have hit : key found = wanted := first_key first
    exact ⟨found, first_mem first, hit⟩
  · rintro ⟨candidate, member, hit⟩
    cases search : list.find? (fun candidate => key candidate == wanted) with
    | none => exact absurd hit ((absent_by_key key wanted list).mp search candidate member)
    | some found => exact ⟨found, (find_by_key key wanted list found).mp search⟩

-- What a subscription names

theorem nonEmpty?_some (text named : String) :
    nonEmpty? text = some named ↔ text = named ∧ named ≠ "" := by
  by_cases empty : text = ""
  · subst text
    simp only [nonEmpty?, if_pos]
    constructor
    · intro absurdity
      cases absurdity
    · rintro ⟨same, different⟩
      exact absurd same.symm different
  · simp only [nonEmpty?, if_neg empty, Option.some.injEq]
    constructor
    · intro same
      exact ⟨same, same ▸ empty⟩
    · exact And.left

theorem named_field (field : Option String) (named : String) :
    field.bind nonEmpty? = some named ↔ field = some named ∧ named ≠ "" := by
  rw [Option.bind_eq_some_iff]
  constructor
  · rintro ⟨text, held, kept⟩
    obtain ⟨same, filled⟩ := (nonEmpty?_some text named).mp kept
    exact ⟨same ▸ held, filled⟩
  · rintro ⟨held, filled⟩
    exact ⟨named, held, (nonEmpty?_some named named).mpr ⟨rfl, filled⟩⟩

namespace Subscription

/-- An empty text names no plan. -/
def NamesPlan (subscription : Subscription) (planId : String) : Prop :=
  subscription.planIdField = some planId ∧ planId ≠ ""

/-- An empty text names no price. -/
def NamesPrice (subscription : Subscription) (priceId : String) : Prop :=
  subscription.priceIdField = some priceId ∧ priceId ≠ ""

theorem planId_some (subscription : Subscription) (planId : String) :
    subscription.planId = some planId ↔ subscription.NamesPlan planId :=
  named_field subscription.planIdField planId

theorem priceId_some (subscription : Subscription) (priceId : String) :
    subscription.priceId = some priceId ↔ subscription.NamesPrice priceId :=
  named_field subscription.priceIdField priceId

theorem namesPrice_unique (subscription : Subscription) (left right : String)
    (names : subscription.NamesPrice left) (alsoNames : subscription.NamesPrice right) :
    left = right :=
  Option.some.inj (names.1.symm.trans alsoNames.1)

end Subscription

-- What a catalog holds

/-- The first price with an id: the plans come in catalog order, the prices of each in its own. -/
def FirstPrice (catalog : Catalog) (priceId : String) (price : Price) : Prop :=
  ∃ before offer after, catalog = before ++ offer :: after ∧
    FirstWith (fun candidate => candidate.id = priceId) offer.prices price ∧
    ∀ earlier ∈ before, ∀ other ∈ earlier.prices, other.id ≠ priceId

/-- The subscription names a legacy plan of the catalog, and a price that this plan owns. -/
def BilledFor (catalog : Catalog) (subscription : Subscription) (offer : Offer)
    (price : Price) : Prop :=
  ∃ planId priceId, subscription.NamesPlan planId ∧ subscription.NamesPrice priceId ∧
    FirstWith (fun candidate => candidate.id = planId) catalog offer ∧ offer.isLegacy = true ∧
    FirstWith (fun candidate => candidate.id = priceId) offer.prices price

namespace Catalog

theorem findPlan?_some (catalog : Catalog) (planId : String) (offer : Offer) :
    catalog.findPlan? planId = some offer ↔
      FirstWith (fun candidate => candidate.id = planId) catalog offer :=
  find_by_key Offer.id planId catalog offer

theorem findPlan?_none (catalog : Catalog) (planId : String) :
    catalog.findPlan? planId = none ↔ ∀ offer ∈ catalog, offer.id ≠ planId :=
  absent_by_key Offer.id planId catalog

theorem find_across_plans (catalog : Catalog) (priceId : String) (price : Price) :
    (catalog.flatMap Offer.prices).find? (fun candidate => candidate.id == priceId) = some price ↔
      FirstPrice catalog priceId price := by
  rw [List.find?_flatMap, List.findSome?_eq_some_iff]
  simp only [find_by_key Price.id, absent_by_key Price.id, FirstPrice]

theorem first_price_exists (catalog : Catalog) (priceId : String) :
    (∃ price, FirstPrice catalog priceId price) ↔
      ∃ offer ∈ catalog, ∃ price ∈ offer.prices, price.id = priceId := by
  simp only [← find_across_plans, ← Option.isSome_iff_exists, List.find?_isSome,
    List.mem_flatMap, beq_iff_eq]
  constructor
  · rintro ⟨price, ⟨offer, member, owned⟩, hit⟩
    exact ⟨offer, member, price, owned, hit⟩
  · rintro ⟨offer, member, price, owned, hit⟩
    exact ⟨price, ⟨offer, member, owned⟩, hit⟩

theorem first_price_owned (catalog : Catalog) (priceId : String) (price : Price)
    (first : FirstPrice catalog priceId price) :
    price.id = priceId ∧ ∃ offer ∈ catalog, price ∈ offer.prices := by
  obtain ⟨before, offer, after, same, firstPrice, _⟩ := first
  have member : offer ∈ catalog := by
    rw [same]
    simp
  have hit : price.id = priceId := first_key firstPrice
  exact ⟨hit, offer, member, first_mem firstPrice⟩

theorem findPrice?_some (catalog : Catalog) (priceId : String) (price : Price) :
    catalog.findPrice? priceId = some price ↔
      canPriceBeFoundInCatalog priceId = true ∧ FirstPrice catalog priceId price := by
  by_cases accepted : canPriceBeFoundInCatalog priceId = true
  · rw [findPrice?, if_pos accepted, find_across_plans]
    simp [accepted]
  · simp [findPrice?, accepted]

theorem legacyOffer?_some (catalog : Catalog) (subscription : Subscription) (legacy : Offer) :
    catalog.legacyOffer? (some subscription) = some legacy ↔
      ∃ offer price, BilledFor catalog subscription offer price ∧
        legacy = offer.withPrices [price] := by
  simp only [legacyOffer?, Option.bind_eq_bind, Option.bind_some, Option.bind_eq_some_iff,
    findPlan?_some, Subscription.planId_some, Subscription.priceId_some]
  constructor
  · rintro ⟨planId, namesPlan, priceId, namesPrice, offer, firstPlan, narrowed⟩
    split at narrowed
    · next isLegacy =>
        obtain ⟨price, search, same⟩ := Option.bind_eq_some_iff.mp narrowed
        have firstPrice := (find_by_key Price.id priceId offer.prices price).mp search
        exact ⟨offer, price, ⟨planId, priceId, namesPlan, namesPrice, firstPlan, isLegacy,
          firstPrice⟩, (Option.some.inj same).symm⟩
    · cases narrowed
  · rintro ⟨offer, price, ⟨planId, priceId, namesPlan, namesPrice, firstPlan, isLegacy,
      firstPrice⟩, same⟩
    refine ⟨planId, namesPlan, priceId, namesPrice, offer, firstPlan, ?_⟩
    have search := (find_by_key Price.id priceId offer.prices price).mpr firstPrice
    simp [isLegacy, search, same]

end Catalog

-- Small records, at which the theorems are tried

def Subscription.naming (planId priceId : String) : Subscription :=
  { userId := "user-1"
    planIdField := some planId
    createdAt := 0
    updatedAt := 0
    priceIdField := some priceId
    stripeSubscriptionId := none
    stripeCustomerId := none
    paypalSubscriptionId := none
    paypalPayerId := none
    purchaselyPlan := none
    cancelAtPeriodEnd := none
    cancelReasons := none
    redemptionCode := none
    redemptionCodeValidUntil := none
    educationBenefit := none
    isTeacher := none }

def Plan.bare (id : String) (isLegacy : Bool) : Plan :=
  { id
    isLegacy
    name := .empty
    description := .empty
    bulletPoints := []
    specificRequirement := none
    audiences := []
    features := []
    pillarNames := .empty
    featureNames := .empty }

def Price.monthly (id planId : String) : Price :=
  { id
    planId
    period := .month
    isPerUser := none
    currency := .eur
    region := "eu"
    status := .active
    amountInCents := 999
    periodCount := 1 }

end Entitlement
