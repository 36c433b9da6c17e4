import Entitlement.Report
import Entitlement.Proofs.Consistency

/-!
Price ids that mark a plan which was not bought at a price of the catalog. The lookup of a price
refuses them before it looks. The legacy plan is found in another way: its price is looked for
among the prices of the one plan, without that test.
-/

namespace Entitlement

/-- The ids of grants, and every id of a sale by a mobile app store. -/
def MarksGrant (priceId : String) : Prop :=
  priceId = "REDEMPTION_CODE" ∨ priceId = "MANUALLY_ADDED" ∨ priceId = "TEAM_MEMBER" ∨
    ∃ rest, priceId = "PURCHASELY_" ++ rest

theorem store_mark_iff (priceId : String) :
    OutOfBand.storeMark.toList.isPrefixOf priceId.toList = true ↔
      ∃ rest, priceId = "PURCHASELY_" ++ rest := by
  rw [List.isPrefixOf_iff_prefix]
  constructor
  · rintro ⟨rest, same⟩
    have spelled : ("PURCHASELY_" ++ String.ofList rest).toList = priceId.toList := by
      rw [← same, OutOfBand.storeMark]
      simp
    exact ⟨String.ofList rest, (String.toList_inj.mp spelled).symm⟩
  · rintro ⟨rest, same⟩
    exact ⟨rest.toList, by rw [same, String.toList_append]; rfl⟩

theorem marksGrant_iff (priceId : String) :
    MarksGrant priceId ↔ priceId ∈ OutOfBand.ids ∨ ∃ rest, priceId = "PURCHASELY_" ++ rest := by
  simp [MarksGrant, OutOfBand.ids, OutOfBand.redemptionCode, OutOfBand.manuallyAdded,
    OutOfBand.teamMember, or_assoc]

theorem canPriceBeFoundInCatalog_iff (priceId : String) :
    canPriceBeFoundInCatalog priceId = true ↔ ¬ MarksGrant priceId := by
  rw [canPriceBeFoundInCatalog, Bool.and_eq_true, Bool.not_eq_true', Bool.not_eq_true',
    ← Bool.not_eq_true, ← Bool.not_eq_true, List.contains_iff_mem, store_mark_iff, marksGrant_iff,
    not_or]

theorem marks_filled (priceId : String) (marks : MarksGrant priceId) : priceId ≠ "" := by
  rcases marks with same | same | same | ⟨rest, same⟩
  · subst same; decide
  · subst same; decide
  · subst same; decide
  · subst same
    intro empty
    simp at empty

/-- The plan that a subscription names is a legacy plan, and one of its prices has an id. -/
def LegacyPlanOwns (catalog : Catalog) (subscription : Subscription) (priceId : String) : Prop :=
  ∃ planId offer, subscription.NamesPlan planId ∧
    FirstWith (fun candidate => candidate.id = planId) catalog offer ∧ offer.isLegacy = true ∧
    ∃ price ∈ offer.prices, price.id = priceId

namespace Catalog

theorem findPrice?_marked (catalog : Catalog) (priceId : String) (marks : MarksGrant priceId) :
    catalog.findPrice? priceId = none := by
  have refused : ¬ canPriceBeFoundInCatalog priceId = true :=
    fun accepted => (canPriceBeFoundInCatalog_iff priceId).mp accepted marks
  rw [findPrice?, if_neg refused]

theorem legacyOffer?_present (catalog : Catalog) (subscription : Subscription)
    (priceId : String) (names : subscription.NamesPrice priceId) :
    (catalog.legacyOffer? (some subscription)).isSome = true ↔
      LegacyPlanOwns catalog subscription priceId := by
  rw [Option.isSome_iff_exists]
  simp only [legacyOffer?_some, LegacyPlanOwns, ← first_by_key_exists Price.id]
  constructor
  · rintro ⟨_, offer, price, ⟨planId, other, namesPlan, alsoNames, firstPlan, isLegacy,
      firstPrice⟩, _⟩
    have same := subscription.namesPrice_unique other priceId alsoNames names
    subst other
    exact ⟨planId, offer, namesPlan, firstPlan, isLegacy, price, firstPrice⟩
  · rintro ⟨planId, offer, namesPlan, firstPlan, isLegacy, price, firstPrice⟩
    exact ⟨_, offer, price, ⟨planId, priceId, namesPlan, names, firstPlan, isLegacy,
      firstPrice⟩, rfl⟩

theorem legacyOffer?_absent (catalog : Catalog) (subscription : Subscription)
    (priceId : String) (names : subscription.NamesPrice priceId) :
    catalog.legacyOffer? (some subscription) = none ↔
      ¬ LegacyPlanOwns catalog subscription priceId := by
  rw [← catalog.legacyOffer?_present subscription priceId names, Bool.not_eq_true,
    Option.isSome_eq_false_iff, Option.isNone_iff_eq_none]

end Catalog

namespace Snapshot

theorem resolve_legacyPlan_absent (catalog : Catalog) (subscription : Subscription)
    (priceId : String) (names : subscription.NamesPrice priceId) (limits : Option Limits)
    (now : Int) :
    (resolve catalog (some subscription) limits now).legacyPlan = none ↔
      ¬ (subscription.hasValidPlan now = true ∧
        LegacyPlanOwns catalog subscription priceId) := by
  rw [← catalog.legacyOffer?_present subscription priceId names, Option.isSome_iff_exists,
    Option.eq_none_iff_forall_ne_some]
  simp only [ne_eq, resolve_legacyPlan_some, not_and, not_exists]
  constructor
  · intro absent valid legacy found
    exact absent legacy valid found
  · intro absent legacy valid found
    exact absent valid legacy found

/-- A grant is never found as a price. Its legacy plan is found if and only if that plan owns a
price under the id of the grant, and the report then shows it. -/
theorem marked_price_resolution (catalog : Catalog) (subscription : Subscription)
    (priceId : String) (limits : Option Limits) (now : Int)
    (held : subscription.priceIdField = some priceId) (marks : MarksGrant priceId) :
    catalog.findPrice? priceId = none ∧
    (resolve catalog (some subscription) limits now).price = none ∧
    (catalog.legacyOffer? (some subscription) = none ↔
      ¬ LegacyPlanOwns catalog subscription priceId) ∧
    ((resolve catalog (some subscription) limits now).legacyPlan = none ↔
      ¬ (subscription.hasValidPlan now = true ∧
        LegacyPlanOwns catalog subscription priceId)) ∧
    (∀ known locale,
      (Report.build catalog subscription known locale now).legacyPlan = none ↔
        ¬ (subscription.hasValidPlan now = true ∧
          LegacyPlanOwns catalog subscription priceId)) := by
  have names : subscription.NamesPrice priceId := ⟨held, marks_filled priceId marks⟩
  refine ⟨catalog.findPrice?_marked priceId marks, ?price,
    catalog.legacyOffer?_absent subscription priceId names,
    resolve_legacyPlan_absent catalog subscription priceId names limits now, ?report⟩
  case price =>
    apply Option.eq_none_iff_forall_ne_some.mpr
    intro price present
    obtain ⟨_, search⟩ :=
      (resolve_price_some catalog subscription limits now price).mp present
    rw [(subscription.priceId_some priceId).mpr names, Option.bind_some,
      catalog.findPrice?_marked priceId marks] at search
    cases search
  case report =>
    intro known locale
    rw [← resolve_legacyPlan_absent catalog subscription priceId names (some known) now]
    exact Option.map_eq_none_iff

def grantPricedOffer : Offer := ⟨.bare "P1" true, [.monthly "MANUALLY_ADDED" "P1"]⟩

theorem marked_price_resolution_by_hand :
    (Subscription.naming "P1" "MANUALLY_ADDED").priceIdField = some "MANUALLY_ADDED" ∧
    MarksGrant "MANUALLY_ADDED" ∧
    Catalog.findPrice? [grantPricedOffer] "MANUALLY_ADDED" = none ∧
    (resolve [grantPricedOffer] (some (.naming "P1" "MANUALLY_ADDED")) none 0).price = none ∧
    (resolve [grantPricedOffer] (some (.naming "P1" "MANUALLY_ADDED")) none 0).legacyPlan ≠
      none := by
  have marks : MarksGrant "MANUALLY_ADDED" := Or.inr (Or.inl rfl)
  obtain ⟨refused, priceless, _, legacy, _⟩ := marked_price_resolution [grantPricedOffer]
    (.naming "P1" "MANUALLY_ADDED") "MANUALLY_ADDED" none 0 rfl marks
  refine ⟨rfl, marks, refused, priceless, fun absent => legacy.mp absent ?_⟩
  exact ⟨by decide, "P1", grantPricedOffer, ⟨rfl, by decide⟩, ⟨[], [], rfl, rfl, by simp⟩, rfl,
    _, List.mem_cons_self, rfl⟩

/-- So it is not so that the id of a grant never leads to a price. -/
theorem marked_price_found :
    ¬ ∀ (catalog : Catalog) (subscription : Subscription) (priceId : String)
        (limits : Option Limits) (now : Int),
      subscription.priceIdField = some priceId → MarksGrant priceId →
      catalog.findPrice? priceId = none ∧
      catalog.legacyOffer? (some subscription) = none ∧
      (resolve catalog (some subscription) limits now).price = none ∧
      (resolve catalog (some subscription) limits now).legacyPlan = none := by
  intro never
  have absent := (never [grantPricedOffer] (.naming "P1" "MANUALLY_ADDED") "MANUALLY_ADDED" none 0
    rfl (Or.inr (Or.inl rfl))).2.1
  have found : (Catalog.legacyOffer? [grantPricedOffer]
      (some (.naming "P1" "MANUALLY_ADDED"))).isSome = true := by decide
  rw [absent] at found
  cases found

end Snapshot

end Entitlement
