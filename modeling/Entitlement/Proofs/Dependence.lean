import Mathlib.Data.Option.Basic
import Entitlement.Proofs.Resolution

/-!
What an entitlement may depend on. Of a subscription that is the plan and the price that it names,
the store, the time limit and the education benefit; of the limits the classroom tab and the project
history. Two accounts that are alike in these have the same snapshot under every catalog and at
every instant.
-/

namespace Entitlement

namespace Subscription

/-- A store sold the subscription. An empty text names no store plan. -/
def NamesStore (subscription : Subscription) : Prop :=
  ∃ plan, subscription.purchaselyPlan = some plan ∧ plan ≠ ""

/-- Two subscriptions that no snapshot tells apart. Their other fields may differ at will. -/
structure Alike (one other : Subscription) : Prop where
  plan : ∀ planId, one.NamesPlan planId ↔ other.NamesPlan planId
  price : ∀ priceId, one.NamesPrice priceId ↔ other.NamesPrice priceId
  store : one.NamesStore ↔ other.NamesStore
  validUntil : one.redemptionCodeValidUntil = other.redemptionCodeValidUntil
  education : one.educationBenefit = some true ↔ other.educationBenefit = some true

theorem isFromStore_iff (subscription : Subscription) :
    subscription.isFromStore = true ↔ subscription.NamesStore := by
  unfold isFromStore NamesStore
  rw [Option.isSome_iff_exists]
  exact exists_congr fun plan => named_field subscription.purchaselyPlan plan

namespace Alike

variable {one other : Subscription}

theorem same_planId (alike : one.Alike other) : one.planId = other.planId := by
  apply Option.ext
  intro planId
  rw [planId_some, planId_some]
  exact alike.plan planId

theorem same_priceId (alike : one.Alike other) : one.priceId = other.priceId := by
  apply Option.ext
  intro priceId
  rw [priceId_some, priceId_some]
  exact alike.price priceId

theorem same_store (alike : one.Alike other) : one.isFromStore = other.isFromStore := by
  rw [Bool.eq_iff_iff, isFromStore_iff, isFromStore_iff]
  exact alike.store

theorem same_education (alike : one.Alike other) :
    one.benefitsFromEducationPlan = other.benefitsFromEducationPlan := by
  rw [Bool.eq_iff_iff, benefitsFromEducationPlan_iff, benefitsFromEducationPlan_iff]
  exact alike.education

theorem same_validity (alike : one.Alike other) (now : Int) :
    one.hasValidPlan now = other.hasValidPlan now := by
  simp only [hasValidPlan, alike.same_planId, alike.validUntil]

theorem same_hasPlanIn (alike : one.Alike other) (planIds : List String) :
    one.hasPlanIn planIds = other.hasPlanIn planIds := by
  rw [hasPlanIn, hasPlanIn, alike.same_planId]

theorem same_canUpgrade (alike : one.Alike other) : one.canUpgrade = other.canUpgrade := by
  rw [canUpgrade, canUpgrade, alike.same_hasPlanIn, alike.same_education]

theorem same_canBenefitFromRole (alike : one.Alike other) :
    one.canBenefitFromRole = other.canBenefitFromRole := by
  rw [canBenefitFromRole, canBenefitFromRole, alike.same_hasPlanIn, alike.same_education]

theorem same_grants (alike : one.Alike other) :
    one.wasManuallyAdded = other.wasManuallyAdded ∧
      one.isComingFromTeam = other.isComingFromTeam := by
  unfold wasManuallyAdded isComingFromTeam
  rw [alike.same_priceId]
  exact ⟨rfl, rfl⟩

theorem same_origin (alike : one.Alike other) :
    Origin.ofSubscription one = Origin.ofSubscription other := by
  obtain ⟨manual, team⟩ := alike.same_grants
  rw [Origin.ofSubscription, Origin.ofSubscription, alike.same_store, manual, team,
    alike.same_priceId, alike.validUntil]

-- The legacy plan is the only part that reads both ids on a path of its own.
theorem same_legacyOffer (alike : one.Alike other) (catalog : Catalog) :
    catalog.legacyOffer? (some one) = catalog.legacyOffer? (some other) := by
  simp only [Catalog.legacyOffer?, Option.bind_eq_bind, Option.bind_some, alike.same_planId,
    alike.same_priceId]

end Alike

end Subscription

namespace Limits

def ShowsTab (limits : Option Limits) (shown : Bool) : Prop :=
  ∃ held settings, limits = some held ∧ held.capabilities.classrooms = some settings ∧
    settings.showClassroomTab = shown

def AllowsHistory (limits : Option Limits) : Prop :=
  ∃ held, limits = some held ∧ held.capabilities.versionHistory.enabled = true

/-- Two limits that no snapshot tells apart. Limits that are not there are like limits without
classrooms and without history. -/
structure Alike (one other : Option Limits) : Prop where
  classrooms : ∀ shown, ShowsTab one shown ↔ ShowsTab other shown
  history : AllowsHistory one ↔ AllowsHistory other

theorem alike_refl (limits : Option Limits) : Alike limits limits :=
  ⟨fun _ => Iff.rfl, Iff.rfl⟩

end Limits

namespace Eligibility

theorem showsTab_iff (limits : Option Limits) :
    (canUseClassroomFeature limits = true ↔ Limits.ShowsTab limits true) ∧
      (shouldHideClassroomTab limits = true ↔ Limits.ShowsTab limits false) := by
  unfold canUseClassroomFeature shouldHideClassroomTab Limits.ShowsTab classrooms?
  cases limits with
  | none => simp
  | some held => simp [Option.any_eq_true]

theorem allowsHistory_iff (limits : Option Limits) :
    canUseCloudProjectHistory limits = true ↔ Limits.AllowsHistory limits := by
  unfold canUseCloudProjectHistory Limits.AllowsHistory
  cases limits with
  | none => simp
  | some held => simp

end Eligibility

namespace Snapshot

variable {one other : Option Limits}

theorem same_limits (alike : Limits.Alike one other) :
    Eligibility.canUseClassroomFeature one = Eligibility.canUseClassroomFeature other ∧
      Eligibility.shouldHideClassroomTab one = Eligibility.shouldHideClassroomTab other ∧
      Eligibility.canUseCloudProjectHistory one = Eligibility.canUseCloudProjectHistory other := by
  refine ⟨?shown, ?hidden, ?history⟩
  case shown =>
    rw [Bool.eq_iff_iff, (Eligibility.showsTab_iff one).1, (Eligibility.showsTab_iff other).1]
    exact alike.classrooms true
  case hidden =>
    rw [Bool.eq_iff_iff, (Eligibility.showsTab_iff one).2, (Eligibility.showsTab_iff other).2]
    exact alike.classrooms false
  case history =>
    rw [Bool.eq_iff_iff, Eligibility.allowsHistory_iff, Eligibility.allowsHistory_iff]
    exact alike.history

theorem granted_alike (catalog : Catalog) (left right : Subscription) (alike : left.Alike right)
    (sameLimits : Limits.Alike one other) :
    granted catalog left one = granted catalog right other := by
  obtain ⟨shown, hidden, history⟩ := same_limits sameLimits
  obtain ⟨manual, team⟩ := alike.same_grants
  rw [granted, granted, alike.same_planId, alike.same_priceId, alike.same_origin,
    alike.same_legacyOffer, alike.same_store, manual, team, alike.same_canUpgrade,
    alike.same_canBenefitFromRole, shown, hidden, history]

theorem lapsed_alike (left right : Option Subscription)
    (alike : Option.Rel Subscription.Alike left right) (sameLimits : Limits.Alike one other) :
    lapsed left one = lapsed right other := by
  obtain ⟨shown, hidden, history⟩ := same_limits sameLimits
  cases alike with
  | none => rw [lapsed, lapsed, shown, hidden, history]
  | @some left right alike =>
      obtain ⟨manual, team⟩ := alike.same_grants
      simp only [lapsed, Option.bind_some, Option.any_some, Eligibility.wasManuallyAdded,
        Eligibility.isComingFromTeam, Eligibility.hasMobileAppStoreSubscription,
        alike.same_priceId, alike.same_store, alike.same_education, manual, team, shown, hidden,
        history]

theorem resolve_alike (catalog : Catalog) (left right : Option Subscription) (now : Int)
    (alike : Option.Rel Subscription.Alike left right) (sameLimits : Limits.Alike one other) :
    resolve catalog left one now = resolve catalog right other now := by
  have sameValidity : Eligibility.hasValidSubscriptionPlan left now =
      Eligibility.hasValidSubscriptionPlan right now := by
    cases alike with
    | none => rfl
    | some alike => exact alike.same_validity now
  rcases resolve_cases catalog left one now with
    ⟨held, rfl, valid, granting⟩ | ⟨invalid, lapsing⟩
  · cases alike with
    | @some _ held' alike =>
        have alsoValid : held'.hasValidPlan now = true := (alike.same_validity now).symm.trans valid
        rw [granting, resolve_granted catalog held' other now alsoValid]
        exact granted_alike catalog held held' alike sameLimits
  · rw [lapsing, resolve_lapsed catalog right other now (sameValidity.symm.trans invalid)]
    exact lapsed_alike left right alike sameLimits

-- What never matters

/-- What decides of one subscription in the guise of another: user, dates, payments, the code
itself, cancellation and teacher are those of the guise. -/
def disguised (held guise : Subscription) : Subscription :=
  { guise with
    planIdField := held.planIdField
    priceIdField := held.priceIdField
    purchaselyPlan := held.purchaselyPlan
    redemptionCodeValidUntil := held.redemptionCodeValidUntil
    educationBenefit := held.educationBenefit }

theorem disguised_alike (held guise : Subscription) : (disguised held guise).Alike held :=
  ⟨fun _ => Iff.rfl, fun _ => Iff.rfl, Iff.rfl, rfl, Iff.rfl⟩

/-- The subscription with nothing in place of each empty text, and of an education benefit that is
denied. -/
def cleared (held : Subscription) : Subscription :=
  { held with
    planIdField := held.planIdField.filter (· ≠ "")
    priceIdField := held.priceIdField.filter (· ≠ "")
    purchaselyPlan := held.purchaselyPlan.filter (· ≠ "")
    educationBenefit := held.educationBenefit.filter (· = true) }

theorem cleared_field (field : Option String) (named : String) :
    (field.filter (· ≠ "") = some named ∧ named ≠ "") ↔ (field = some named ∧ named ≠ "") := by
  apply and_congr_left
  intro filled
  rw [Option.filter_eq_some_iff]
  constructor
  · exact And.left
  · intro held
    exact ⟨held, decide_eq_true filled⟩

theorem cleared_alike (held : Subscription) : (cleared held).Alike held where
  plan planId := cleared_field held.planIdField planId
  price priceId := cleared_field held.priceIdField priceId
  store := exists_congr fun plan => cleared_field held.purchaselyPlan plan
  validUntil := rfl
  education := by simp [cleared, Option.filter_eq_some_iff]

/-- A snapshot depends on nothing but what makes subscriptions and limits alike. So it does not
matter whose subscription it is and how it is paid, nor what quotas and credits there are, nor
whether an id that names nothing is empty or absent. -/
theorem resolve_depends_only (catalog : Catalog) (now : Int) :
    (∀ left right one other, Option.Rel Subscription.Alike left right → Limits.Alike one other →
      resolve catalog left one now = resolve catalog right other now) ∧
    (∀ held guise limits, resolve catalog (some (disguised held guise)) limits now =
      resolve catalog (some held) limits now) ∧
    (∀ subscription (held guise : Limits),
      resolve catalog subscription (some { guise with capabilities := held.capabilities }) now =
        resolve catalog subscription (some held) now) ∧
    (∀ held limits, resolve catalog (some (cleared held)) limits now =
      resolve catalog (some held) limits now) := by
  refine ⟨?alike, ?disguised, ?capable, ?cleared⟩
  case alike =>
    intro left right one other alike sameLimits
    exact resolve_alike catalog left right now alike sameLimits
  case disguised =>
    intro held guise limits
    exact resolve_alike catalog _ _ now (.some (disguised_alike held guise))
      (Limits.alike_refl limits)
  case capable =>
    intro subscription held guise
    apply resolve_alike catalog subscription subscription now
    · cases subscription with
      | none => exact .none
      | some subscription => exact .some (disguised_alike subscription subscription)
    · refine ⟨fun shown => ?_, ?_⟩
      · simp [Limits.ShowsTab]
      · simp [Limits.AllowsHistory]
  case cleared =>
    intro held limits
    exact resolve_alike catalog _ _ now (.some (cleared_alike held)) (Limits.alike_refl limits)

def bareLimits : Limits :=
  { quotas := .empty
    capabilities :=
      { analytics := ⟨false, false, false, false, false⟩
        cloudProjects := ⟨0, false, 0⟩
        leaderboards := ⟨0, false, .none, false, false⟩
        privateTutorials := none
        classrooms := none
        multiplayer := ⟨0, 0, .none⟩
        versionHistory := ⟨false⟩ }
    credits := ⟨⟨0⟩, .empty, .empty⟩
    message := none }

def teachersGold : Subscription :=
  { redeemedGold with
    userId := "user-2"
    purchaselyPlan := some ""
    redemptionCode := some "CODE"
    educationBenefit := some false
    isTeacher := some true }

theorem teachers_gold_alike :
    redeemedGold.Alike teachersGold ∧ Limits.Alike none (some bareLimits) ∧
    resolve [] (some redeemedGold) none 0 = resolve [] (some teachersGold) (some bareLimits) 0 := by
  have alike : redeemedGold.Alike teachersGold :=
    { plan := fun _ => Iff.rfl
      price := fun _ => Iff.rfl
      store := by simp [Subscription.NamesStore, redeemedGold, teachersGold, Subscription.naming]
      validUntil := rfl
      education := by decide }
  have sameLimits : Limits.Alike none (some bareLimits) := by
    constructor
    · simp [Limits.ShowsTab, bareLimits]
    · simp [Limits.AllowsHistory, bareLimits]
  exact ⟨alike, sameLimits, (resolve_depends_only [] 0).1 _ _ _ _ (.some alike) sameLimits⟩

end Snapshot

end Entitlement
