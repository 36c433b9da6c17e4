import Entitlement.Proofs.Dependence
import Entitlement.Proofs.OutOfBand

/-!
Where a plan comes from, and whether its price is one of the catalog. The first is told by the
store, the ids of grants and the time limit, the second by the form of the price id alone. So the
two can tell different stories: of an id that marks a sale by a store when no store is named, and
of a grant under the id of a price that the catalog has.
-/

namespace Entitlement

theorem store_mark_unlisted (priceId : String)
    (stored : ∃ rest, priceId = "PURCHASELY_" ++ rest) : priceId ∉ OutOfBand.ids := by
  intro listed
  have unmarked : ∀ id ∈ OutOfBand.ids,
      OutOfBand.storeMark.toList.isPrefixOf id.toList = false := by decide
  have marked := (store_mark_iff priceId).mpr stored
  rw [unmarked priceId listed] at marked
  cases marked

namespace Subscription

theorem origin_named (subscription : Subscription) (priceId : String)
    (names : subscription.NamesPrice priceId) :
    Origin.ofSubscription subscription =
      if subscription.isFromStore then .mobileAppStore
      else if priceId = OutOfBand.manuallyAdded then .manuallyAdded
      else if priceId = OutOfBand.teamMember then .teamMember
      else if priceId = OutOfBand.redemptionCode ∨
        subscription.redemptionCodeValidUntil ≠ none then .redemptionCode
      else .catalog := by
  have held : subscription.priceId = some priceId :=
    (subscription.priceId_some priceId).mpr names
  simp [Origin.ofSubscription, wasManuallyAdded, isComingFromTeam, held,
    Option.isSome_iff_ne_none]

theorem origin_catalog_iff (subscription : Subscription) (priceId : String)
    (names : subscription.NamesPrice priceId) :
    Origin.ofSubscription subscription = .catalog ↔
      priceId ∉ OutOfBand.ids ∧ ¬ subscription.NamesStore ∧
        subscription.redemptionCodeValidUntil = none := by
  rw [subscription.origin_named priceId names, ← isFromStore_iff]
  by_cases fromStore : subscription.isFromStore = true
  · simp [fromStore]
  · by_cases manual : priceId = OutOfBand.manuallyAdded
    · simp [fromStore, manual, OutOfBand.ids]
    · by_cases team : priceId = OutOfBand.teamMember
      · rw [if_neg fromStore, if_neg manual, if_pos team]
        simp [team, OutOfBand.ids]
      · simp [fromStore, manual, team, OutOfBand.ids]

/-- A price of the catalog tells nothing of the origin: the store and the time limit do. -/
theorem origin_unmarked (subscription : Subscription) (priceId : String)
    (names : subscription.NamesPrice priceId) (unmarked : ¬ MarksGrant priceId) :
    Origin.ofSubscription subscription =
      if subscription.isFromStore then .mobileAppStore
      else if subscription.redemptionCodeValidUntil ≠ none then .redemptionCode
      else .catalog := by
  simp only [MarksGrant, not_or] at unmarked
  obtain ⟨code, manual, team, _⟩ := unmarked
  simp [subscription.origin_named priceId names, OutOfBand.manuallyAdded,
    OutOfBand.teamMember, OutOfBand.redemptionCode, code, manual, team]

end Subscription

namespace Snapshot

theorem resolve_origin (catalog : Catalog) (subscription : Subscription)
    (limits : Option Limits) (now : Int) (valid : subscription.hasValidPlan now = true) :
    (resolve catalog (some subscription) limits now).origin =
      Origin.ofSubscription subscription := by
  rw [resolve_granted catalog subscription limits now valid]
  rfl

/-- A valid plan under an id that no price of the catalog can have counts as bought from the catalog
exactly if the id is that of a store's sale and neither a store nor a time limit is given. -/
theorem marked_price_origin (catalog : Catalog) (subscription : Subscription) (priceId : String)
    (limits : Option Limits) (now : Int) (valid : subscription.hasValidPlan now = true)
    (held : subscription.priceIdField = some priceId) (filled : priceId ≠ "")
    (refused : Entitlement.canPriceBeFoundInCatalog priceId = false) :
    (resolve catalog (some subscription) limits now).origin = .catalog ↔
      (∃ rest, priceId = "PURCHASELY_" ++ rest) ∧ ¬ subscription.NamesStore ∧
        subscription.redemptionCodeValidUntil = none := by
  rw [resolve_origin catalog subscription limits now valid,
    subscription.origin_catalog_iff priceId ⟨held, filled⟩]
  apply and_congr_left
  intro _
  constructor
  · intro unlisted
    have marks : MarksGrant priceId := by
      by_contra unmarked
      rw [(canPriceBeFoundInCatalog_iff priceId).mpr unmarked] at refused
      cases refused
    exact ((marksGrant_iff priceId).mp marks).resolve_left unlisted
  · exact store_mark_unlisted priceId

/-- A sale by a store that names its price but not the store's plan. -/
def unnamedSale : Subscription := .naming PlanId.silver "PURCHASELY_silver_month"

theorem marked_price_origin_unnamed :
    unnamedSale.hasValidPlan 0 = true ∧
    unnamedSale.priceIdField = some "PURCHASELY_silver_month" ∧
    "PURCHASELY_silver_month" ≠ "" ∧
    Entitlement.canPriceBeFoundInCatalog "PURCHASELY_silver_month" = false ∧
    (resolve [] (some unnamedSale) none 0).origin = .catalog := by
  have valid : unnamedSale.hasValidPlan 0 = true := by decide
  have refused : Entitlement.canPriceBeFoundInCatalog "PURCHASELY_silver_month" = false := by
    decide
  refine ⟨valid, rfl, by decide, refused, ?_⟩
  apply (marked_price_origin [] unnamedSale _ none 0 valid rfl (by decide) refused).mpr
  exact ⟨⟨"silver_month", by decide⟩, by simp [unnamedSale, Subscription.naming,
    Subscription.NamesStore], rfl⟩

/-- So it is not so that a plan under the id of a grant never counts as bought. -/
theorem marked_price_taken_for_bought :
    ¬ ∀ (catalog : Catalog) (subscription : Subscription) (priceId : String)
        (limits : Option Limits) (now : Int), subscription.hasValidPlan now = true →
      subscription.priceIdField = some priceId → priceId ≠ "" →
      Entitlement.canPriceBeFoundInCatalog priceId = false →
      (resolve catalog (some subscription) limits now).origin ≠ .catalog := by
  intro never
  have bought : (resolve [] (some unnamedSale) none 0).origin = .catalog := by decide
  exact never [] unnamedSale "PURCHASELY_silver_month" none 0 (by decide) rfl (by decide)
    (by decide) bought

-- A price of the catalog

/-- A plan with a price of the catalog counts as bought exactly if neither a store nor a time limit
is given. Otherwise it counts as a sale by the store or, without one, as a redeemed code, and keeps
the price all the same. -/
theorem priced_origin (catalog : Catalog) (subscription : Option Subscription)
    (limits : Option Limits) (now : Int) (price : Price)
    (present : (resolve catalog subscription limits now).price = some price) :
    ∃ held, subscription = some held ∧
      ((resolve catalog subscription limits now).origin = .mobileAppStore ↔ held.NamesStore) ∧
      ((resolve catalog subscription limits now).origin = .redemptionCode ↔
        ¬ held.NamesStore ∧ held.redemptionCodeValidUntil ≠ none) ∧
      ((resolve catalog subscription limits now).origin = .catalog ↔
        ¬ held.NamesStore ∧ held.redemptionCodeValidUntil = none) := by
  cases subscription with
  | none => cases present
  | some held =>
      obtain ⟨valid, search⟩ := (resolve_price_some catalog held limits now price).mp present
      obtain ⟨priceId, named, found⟩ := Option.bind_eq_some_iff.mp search
      have names := (held.priceId_some priceId).mp named
      have unmarked : ¬ MarksGrant priceId :=
        (canPriceBeFoundInCatalog_iff priceId).mp ((catalog.findPrice?_some priceId price).mp
          found).1
      refine ⟨held, rfl, ?_⟩
      rw [resolve_origin catalog held limits now valid, held.origin_unmarked priceId names unmarked,
        ← Subscription.isFromStore_iff]
      by_cases fromStore : held.isFromStore = true
      · simp [fromStore]
      · by_cases limited : held.redemptionCodeValidUntil = none
        · simp [fromStore, limited]
        · simp [fromStore, limited]

/-- A plan that a store sold, under the id of a price of the catalog. -/
def storeSale : Subscription :=
  { Subscription.naming "P1" "PS1" with purchaselyPlan := some "silver_month" }

theorem priced_origin_store :
    let catalog := [⟨.bare "P1" false, [.monthly "PS1" "P1"]⟩]
    (resolve catalog (some storeSale) none 0).price = some (.monthly "PS1" "P1") ∧
    (resolve catalog (some storeSale) none 0).origin = .mobileAppStore := by
  intro catalog
  have present : (resolve catalog (some storeSale) none 0).price =
      some (.monthly "PS1" "P1") := by decide
  obtain ⟨held, same, store, _⟩ := priced_origin catalog (some storeSale) none 0 _ present
  cases same
  exact ⟨present, store.mpr ⟨"silver_month", rfl, by decide⟩⟩

/-- So it is not so that only a plan bought from the catalog has a price of the catalog. -/
theorem grant_keeps_price :
    ¬ ∀ (catalog : Catalog) (subscription : Option Subscription) (limits : Option Limits)
        (now : Int), (resolve catalog subscription limits now).price.isSome = true →
      (resolve catalog subscription limits now).origin = .catalog := by
  intro always
  have bought := always [⟨.bare "P1" false, [.monthly "PS1" "P1"]⟩] (some storeSale) none 0
    (by decide)
  have sold : (resolve [⟨.bare "P1" false, [.monthly "PS1" "P1"]⟩] (some storeSale) none
      0).origin = .mobileAppStore := by decide
  rw [bought] at sold
  cases sold

end Snapshot

end Entitlement
