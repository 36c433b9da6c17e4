import Entitlement.Snapshot
import Entitlement.Proofs.Lookup

/-!
A snapshot is one of two: what a subscription grants while it gives a plan, or what is left of the
account without one. Neither looks at the clock. Time only chooses between the two, and it does so
once.
-/

namespace Entitlement

namespace Subscription

theorem benefitsFromEducationPlan_iff (subscription : Subscription) :
    subscription.benefitsFromEducationPlan = true ↔
      subscription.educationBenefit = some true := by
  unfold benefitsFromEducationPlan
  cases subscription.educationBenefit with
  | none => simp
  | some benefit => simp

/-- The subscription names a plan, and the time of a redeemed plan is not over yet. -/
def Gives (subscription : Subscription) (planId : String) (now : Int) : Prop :=
  subscription.NamesPlan planId ∧
    ∀ validUntil, subscription.redemptionCodeValidUntil = some validUntil →
      now < validUntil.toInt

theorem hasValidPlan_iff (subscription : Subscription) (now : Int) :
    subscription.hasValidPlan now = true ↔ ∃ planId, subscription.Gives planId now := by
  unfold hasValidPlan Gives
  rw [Bool.and_eq_true, Option.isSome_iff_exists]
  constructor
  · rintro ⟨⟨planId, named⟩, inTime⟩
    refine ⟨planId, (planId_some subscription planId).mp named, fun validUntil limited => ?_⟩
    simpa [limited] using inTime
  · rintro ⟨planId, named, inTime⟩
    refine ⟨⟨planId, (planId_some subscription planId).mpr named⟩, ?_⟩
    cases limited : subscription.redemptionCodeValidUntil with
    | none => rfl
    | some validUntil => simpa using inTime validUntil limited

theorem hasValidPlan_before (subscription : Subscription) (now later : Int)
    (order : now ≤ later) (valid : subscription.hasValidPlan later = true) :
    subscription.hasValidPlan now = true := by
  obtain ⟨planId, named, inTime⟩ := (hasValidPlan_iff subscription later).mp valid
  refine (hasValidPlan_iff subscription now).mpr ⟨planId, named, ?_⟩
  intro validUntil limited
  exact Int.lt_of_le_of_lt order (inTime validUntil limited)

theorem hasValidPlan_unlimited (subscription : Subscription) (now : Int)
    (unlimited : subscription.redemptionCodeValidUntil = none) :
    subscription.hasValidPlan now = subscription.planId.isSome := by
  simp [hasValidPlan, unlimited]

theorem hasValidPlan_in_time (subscription : Subscription) (validUntil : Int64) (now : Int)
    (limited : subscription.redemptionCodeValidUntil = some validUntil)
    (inTime : now < validUntil.toInt) :
    subscription.hasValidPlan now = subscription.planId.isSome := by
  simp [hasValidPlan, limited, inTime]

theorem hasValidPlan_over (subscription : Subscription) (validUntil : Int64) (now : Int)
    (limited : subscription.redemptionCodeValidUntil = some validUntil)
    (past : validUntil.toInt ≤ now) : subscription.hasValidPlan now = false := by
  have late : ¬ now < validUntil.toInt := Int.not_lt.mpr past
  simp [hasValidPlan, limited, late]

end Subscription

namespace Snapshot

def granted (catalog : Catalog) (subscription : Subscription) (limits : Option Limits) :
    Snapshot :=
  { hasValidPlan := true
    planId := subscription.planId
    origin := Origin.ofSubscription subscription
    plan := subscription.planId.bind catalog.findPlan?
    price := subscription.priceId.bind catalog.findPrice?
    legacyPlan := catalog.legacyOffer? (some subscription)
    canPriceBeFoundInCatalog := subscription.priceId.any Entitlement.canPriceBeFoundInCatalog
    hasMobileAppStoreSubscription := subscription.isFromStore
    wasManuallyAdded := subscription.wasManuallyAdded
    isComingFromTeam := subscription.isComingFromTeam
    canUpgrade := subscription.canUpgrade
    canBenefitFromDiscordRole := subscription.canBenefitFromRole
    canUseClassroomFeature := Eligibility.canUseClassroomFeature limits
    shouldHideClassroomTab := Eligibility.shouldHideClassroomTab limits
    canUseCloudProjectHistory := Eligibility.canUseCloudProjectHistory limits }

/-- What is left of an account that has no plan. The catalog does not matter to it. -/
def lapsed (subscription : Option Subscription) (limits : Option Limits) : Snapshot :=
  { hasValidPlan := false
    planId := none
    origin := .none
    plan := none
    price := none
    legacyPlan := none
    canPriceBeFoundInCatalog :=
      (subscription.bind Subscription.priceId).any Entitlement.canPriceBeFoundInCatalog
    hasMobileAppStoreSubscription := Eligibility.hasMobileAppStoreSubscription subscription
    wasManuallyAdded := Eligibility.wasManuallyAdded subscription
    isComingFromTeam := Eligibility.isComingFromTeam subscription
    canUpgrade := subscription.any fun subscription => !subscription.benefitsFromEducationPlan
    canBenefitFromDiscordRole := false
    canUseClassroomFeature := Eligibility.canUseClassroomFeature limits
    shouldHideClassroomTab := Eligibility.shouldHideClassroomTab limits
    canUseCloudProjectHistory := Eligibility.canUseCloudProjectHistory limits }

theorem resolve_granted (catalog : Catalog) (subscription : Subscription)
    (limits : Option Limits) (now : Int) (valid : subscription.hasValidPlan now = true) :
    resolve catalog (some subscription) limits now = granted catalog subscription limits := by
  have kept : validAt (some subscription) now = some subscription := by
    simp [validAt, Option.filter, valid]
  simp [resolve, granted, kept, mayUpgrade, Origin.ofValid, valid,
    Eligibility.canUpgradeSubscription, Eligibility.canBenefitFromDiscordRole,
    Eligibility.hasValidSubscriptionPlan, Eligibility.hasMobileAppStoreSubscription,
    Eligibility.wasManuallyAdded, Eligibility.isComingFromTeam]

theorem resolve_lapsed (catalog : Catalog) (subscription : Option Subscription)
    (limits : Option Limits) (now : Int)
    (invalid : Eligibility.hasValidSubscriptionPlan subscription now = false) :
    resolve catalog subscription limits now = lapsed subscription limits := by
  have dropped : validAt subscription now = none := by
    cases subscription with
    | none => rfl
    | some subscription =>
        have refused : subscription.hasValidPlan now = false := invalid
        simp [validAt, Option.filter, refused]
  simp [resolve, lapsed, dropped, invalid, mayUpgrade, Origin.ofValid, Catalog.legacyOffer?,
    Eligibility.canBenefitFromDiscordRole]

theorem resolve_cases (catalog : Catalog) (subscription : Option Subscription)
    (limits : Option Limits) (now : Int) :
    (∃ valid, subscription = some valid ∧ valid.hasValidPlan now = true ∧
      resolve catalog subscription limits now = granted catalog valid limits) ∨
    (Eligibility.hasValidSubscriptionPlan subscription now = false ∧
      resolve catalog subscription limits now = lapsed subscription limits) := by
  cases validity : Eligibility.hasValidSubscriptionPlan subscription now with
  | false => exact Or.inr ⟨rfl, resolve_lapsed catalog subscription limits now validity⟩
  | true =>
      cases subscription with
      | none => cases validity
      | some subscription =>
          exact Or.inl ⟨subscription, rfl, validity,
            resolve_granted catalog subscription limits now validity⟩

-- Both lookups of a price are made for a subscription that gives a plan, and for no other.
theorem resolve_price_some (catalog : Catalog) (subscription : Subscription)
    (limits : Option Limits) (now : Int) (price : Price) :
    (resolve catalog (some subscription) limits now).price = some price ↔
      subscription.hasValidPlan now = true ∧
        subscription.priceId.bind catalog.findPrice? = some price := by
  cases validity : subscription.hasValidPlan now with
  | true => simp [resolve_granted catalog subscription limits now validity, granted]
  | false => simp [resolve_lapsed catalog (some subscription) limits now validity, lapsed]

theorem resolve_legacyPlan_some (catalog : Catalog) (subscription : Subscription)
    (limits : Option Limits) (now : Int) (legacy : Offer) :
    (resolve catalog (some subscription) limits now).legacyPlan = some legacy ↔
      subscription.hasValidPlan now = true ∧
        catalog.legacyOffer? (some subscription) = some legacy := by
  cases validity : subscription.hasValidPlan now with
  | true => simp [resolve_granted catalog subscription limits now validity, granted]
  | false => simp [resolve_lapsed catalog (some subscription) limits now validity, lapsed]

-- What is left of an account does not depend on the plan that its subscription names.
theorem resolve_planless (catalog : Catalog) (subscription : Subscription)
    (limits : Option Limits) (now : Int) :
    resolve catalog (some { subscription with planIdField := none }) limits now =
      lapsed (some subscription) limits := by
  have refused : Eligibility.hasValidSubscriptionPlan
      (some { subscription with planIdField := none }) now = false := by
    simp [Eligibility.hasValidSubscriptionPlan, Subscription.hasValidPlan, Subscription.planId]
  rw [resolve_lapsed catalog _ limits now refused]
  rfl

-- The clock

theorem resolve_same_validity (catalog : Catalog) (subscription : Subscription)
    (limits : Option Limits) (now later : Int)
    (same : subscription.hasValidPlan now = subscription.hasValidPlan later) :
    resolve catalog (some subscription) limits now =
      resolve catalog (some subscription) limits later := by
  cases validity : subscription.hasValidPlan later with
  | true =>
      rw [resolve_granted catalog subscription limits later validity,
        resolve_granted catalog subscription limits now (same.trans validity)]
  | false =>
      rw [resolve_lapsed catalog (some subscription) limits later validity,
        resolve_lapsed catalog (some subscription) limits now (same.trans validity)]

/-- Whoever may upgrade with a plan may upgrade without it. -/
theorem granted_upgrade_kept (catalog : Catalog) (subscription : Subscription)
    (limits : Option Limits)
    (upgrade : (granted catalog subscription limits).canUpgrade = true) :
    (lapsed (some subscription) limits).canUpgrade = true := by
  have allowed : subscription.canUpgrade = true := upgrade
  rw [Subscription.canUpgrade, Bool.and_eq_true] at allowed
  exact allowed.2

theorem resolve_unlimited (catalog : Catalog) (subscription : Subscription)
    (limits : Option Limits) (unlimited : subscription.redemptionCodeValidUntil = none)
    (now later : Int) :
    resolve catalog (some subscription) limits now =
      resolve catalog (some subscription) limits later := by
  apply resolve_same_validity
  rw [subscription.hasValidPlan_unlimited now unlimited,
    subscription.hasValidPlan_unlimited later unlimited]

theorem resolve_in_time (catalog : Catalog) (subscription : Subscription)
    (limits : Option Limits) (validUntil : Int64)
    (limited : subscription.redemptionCodeValidUntil = some validUntil) (now later : Int)
    (nowInTime : now < validUntil.toInt) (laterInTime : later < validUntil.toInt) :
    resolve catalog (some subscription) limits now =
      resolve catalog (some subscription) limits later := by
  apply resolve_same_validity
  rw [subscription.hasValidPlan_in_time validUntil now limited nowInTime,
    subscription.hasValidPlan_in_time validUntil later limited laterInTime]

theorem resolve_past (catalog : Catalog) (subscription : Subscription)
    (limits : Option Limits) (validUntil : Int64)
    (limited : subscription.redemptionCodeValidUntil = some validUntil) (now whenever : Int)
    (past : validUntil.toInt ≤ now) :
    resolve catalog (some subscription) limits now =
      resolve catalog (some { subscription with planIdField := none }) limits whenever := by
  have refused := subscription.hasValidPlan_over validUntil now limited past
  rw [resolve_lapsed catalog (some subscription) limits now refused,
    resolve_planless catalog subscription limits whenever]

theorem resolve_step_down (catalog : Catalog) (subscription : Subscription)
    (limits : Option Limits) (now later : Int) (order : now ≤ later) :
    resolve catalog (some subscription) limits now =
        resolve catalog (some subscription) limits later ∨
      (resolve catalog (some subscription) limits now = granted catalog subscription limits ∧
        resolve catalog (some subscription) limits later = lapsed (some subscription) limits) := by
  cases after : subscription.hasValidPlan later with
  | true =>
      have before := subscription.hasValidPlan_before now later order after
      exact Or.inl (resolve_same_validity catalog subscription limits now later
        (before.trans after.symm))
  | false =>
      cases before : subscription.hasValidPlan now with
      | true =>
          exact Or.inr ⟨resolve_granted catalog subscription limits now before,
            resolve_lapsed catalog (some subscription) limits later after⟩
      | false =>
          exact Or.inl (resolve_same_validity catalog subscription limits now later
            (before.trans after.symm))

theorem resolve_monotone (catalog : Catalog) (subscription : Subscription)
    (limits : Option Limits) (now later : Int) (order : now ≤ later) :
    ((resolve catalog (some subscription) limits later).hasValidPlan = true →
      (resolve catalog (some subscription) limits now).hasValidPlan = true) ∧
    ((resolve catalog (some subscription) limits later).canBenefitFromDiscordRole = true →
      (resolve catalog (some subscription) limits now).canBenefitFromDiscordRole = true) ∧
    ((resolve catalog (some subscription) limits now).canUpgrade = true →
      (resolve catalog (some subscription) limits later).canUpgrade = true) := by
  rcases resolve_step_down catalog subscription limits now later order with same | ⟨before, after⟩
  · rw [same]
    exact ⟨id, id, id⟩
  · rw [before, after]
    refine ⟨fun _ => rfl, fun never => ?_, granted_upgrade_kept catalog subscription limits⟩
    cases never

/-- Without a time limit nothing ever changes. With one there is one change, at the limit: from
then on the account stands as if its subscription named no plan. So a plan and its role are never
gained by waiting, and an offer to upgrade is never lost by it. -/
theorem resolve_over_time (catalog : Catalog) (subscription : Subscription)
    (limits : Option Limits) :
    (subscription.redemptionCodeValidUntil = none → ∀ now later,
      resolve catalog (some subscription) limits now =
        resolve catalog (some subscription) limits later) ∧
    (∀ validUntil, subscription.redemptionCodeValidUntil = some validUntil →
      (∀ now later, now < validUntil.toInt → later < validUntil.toInt →
        resolve catalog (some subscription) limits now =
          resolve catalog (some subscription) limits later) ∧
      (∀ now whenever, validUntil.toInt ≤ now →
        resolve catalog (some subscription) limits now =
          resolve catalog (some { subscription with planIdField := none }) limits whenever)) ∧
    (∀ now later, now ≤ later →
      ((resolve catalog (some subscription) limits later).hasValidPlan = true →
        (resolve catalog (some subscription) limits now).hasValidPlan = true) ∧
      ((resolve catalog (some subscription) limits later).canBenefitFromDiscordRole = true →
        (resolve catalog (some subscription) limits now).canBenefitFromDiscordRole = true) ∧
      ((resolve catalog (some subscription) limits now).canUpgrade = true →
        (resolve catalog (some subscription) limits later).canUpgrade = true)) := by
  refine ⟨resolve_unlimited catalog subscription limits, ?limited,
    resolve_monotone catalog subscription limits⟩
  case limited =>
    intro validUntil limited
    exact ⟨resolve_in_time catalog subscription limits validUntil limited,
      resolve_past catalog subscription limits validUntil limited⟩

def redeemedGold : Subscription :=
  { Subscription.naming PlanId.gold OutOfBand.redemptionCode with
    redemptionCodeValidUntil := some 1000 }

theorem redeemed_gold_over_time :
    (resolve [] (some redeemedGold) none 999).hasValidPlan = true ∧
    resolve [] (some redeemedGold) none 999 = resolve [] (some redeemedGold) none 0 ∧
    resolve [] (some redeemedGold) none 1000 =
      resolve [] (some { redeemedGold with planIdField := none }) none 0 ∧
    ((resolve [] (some redeemedGold) none 999).canUpgrade = true →
      (resolve [] (some redeemedGold) none 1000).canUpgrade = true) := by
  obtain ⟨_, limited, monotone⟩ := resolve_over_time [] redeemedGold none
  obtain ⟨before, after⟩ := limited 1000 rfl
  exact ⟨by decide, before 999 0 (by decide) (by decide), after 1000 0 (by decide),
    (monotone 999 1000 (by decide)).2.2⟩

end Snapshot

end Entitlement
