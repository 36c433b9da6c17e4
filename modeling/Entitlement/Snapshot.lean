import Entitlement.Catalog
import Entitlement.Eligibility

/-!
The entitlement of an account at one instant: the plan it has, where it comes from, and what
follows from it. A subscription that gives no plan at that instant counts as absent for everything
that its plan grants.
-/

namespace Entitlement

open Record

inductive Origin where
  | none
  | catalog
  | mobileAppStore
  | redemptionCode
  | manuallyAdded
  | teamMember
  deriving DecidableEq, Repr

structure Snapshot where
  hasValidPlan : Bool
  planId : Option String
  origin : Origin
  plan : Option Offer
  price : Option Price
  legacyPlan : Option Offer
  canPriceBeFoundInCatalog : Bool
  hasMobileAppStoreSubscription : Bool
  wasManuallyAdded : Bool
  isComingFromTeam : Bool
  canUpgrade : Bool
  canBenefitFromDiscordRole : Bool
  canUseClassroomFeature : Bool
  shouldHideClassroomTab : Bool
  canUseCloudProjectHistory : Bool
  deriving DecidableEq

namespace Origin

def all : List Origin :=
  [.none, .catalog, .mobileAppStore, .redemptionCode, .manuallyAdded, .teamMember]

def name : Origin → String
  | .none => "none"
  | .catalog => "catalog"
  | .mobileAppStore => "mobile_app_store"
  | .redemptionCode => "redemption_code"
  | .manuallyAdded => "manually_added"
  | .teamMember => "team_member"

def codec : Codec Origin := .choice all name

/-- A store comes before a grant by hand, that before a team, and all of them before a code. -/
def ofSubscription (subscription : Subscription) : Origin :=
  if subscription.isFromStore then .mobileAppStore
  else if subscription.wasManuallyAdded then .manuallyAdded
  else if subscription.isComingFromTeam then .teamMember
  else if subscription.priceId == some OutOfBand.redemptionCode
      || subscription.redemptionCodeValidUntil.isSome then .redemptionCode
  else .catalog

def ofValid : Option Subscription → Origin
  | Option.none => .none
  | some subscription => ofSubscription subscription

end Origin

namespace Snapshot

def codec : Codec Snapshot :=
  .record "AccountEntitlement"
    (.field "has_valid_plan" .bool .required <|
      .field "plan_id" (.option .text) .nullable <|
      .field "origin" Origin.codec .required <|
      .field "plan" (.option Offer.codec) .nullable <|
      .field "pricing_system" (.option Price.codec) .nullable <|
      .field "legacy_plan" (.option Offer.codec) .nullable <|
      .field "can_price_be_found_in_catalog" .bool .required <|
      .field "has_mobile_app_store_subscription" .bool .required <|
      .field "was_manually_added" .bool .required <|
      .field "is_coming_from_team" .bool .required <|
      .field "can_upgrade" .bool .required <|
      .field "can_benefit_from_discord_role" .bool .required <|
      .field "can_use_classroom_feature" .bool .required <|
      .field "should_hide_classroom_tab" .bool .required <|
      .field "can_use_cloud_project_history" .bool .required .nil)
    (fun (valid, planId, origin, plan, price, legacy, found, store, manual, team, upgrade, role,
        classroom, hidden, history, ()) =>
      ⟨valid, planId, origin, plan, price, legacy, found, store, manual, team, upgrade, role,
        classroom, hidden, history⟩)
    (fun s => (s.hasValidPlan, s.planId, s.origin, s.plan, s.price, s.legacyPlan,
      s.canPriceBeFoundInCatalog, s.hasMobileAppStoreSubscription, s.wasManuallyAdded,
      s.isComingFromTeam, s.canUpgrade, s.canBenefitFromDiscordRole, s.canUseClassroomFeature,
      s.shouldHideClassroomTab, s.canUseCloudProjectHistory, ()))

def validAt (subscription : Option Subscription) (now : Int) : Option Subscription :=
  subscription.filter fun subscription => subscription.hasValidPlan now

/-- An account without a plan is offered an upgrade unless it benefits from an education plan. -/
def mayUpgrade (subscription valid : Option Subscription) : Bool :=
  if valid.isSome then Eligibility.canUpgradeSubscription valid
  else subscription.any fun subscription => !subscription.benefitsFromEducationPlan

def resolve (catalog : Catalog) (subscription : Option Subscription) (limits : Option Limits)
    (now : Int) : Snapshot :=
  let valid := validAt subscription now
  let planId := valid.bind Subscription.planId
  { hasValidPlan := Eligibility.hasValidSubscriptionPlan subscription now
    planId
    origin := Origin.ofValid valid
    plan := planId.bind catalog.findPlan?
    price := (valid.bind Subscription.priceId).bind catalog.findPrice?
    legacyPlan := catalog.legacyOffer? valid
    canPriceBeFoundInCatalog :=
      (subscription.bind Subscription.priceId).any Entitlement.canPriceBeFoundInCatalog
    hasMobileAppStoreSubscription := Eligibility.hasMobileAppStoreSubscription subscription
    wasManuallyAdded := Eligibility.wasManuallyAdded subscription
    isComingFromTeam := Eligibility.isComingFromTeam subscription
    canUpgrade := mayUpgrade subscription valid
    canBenefitFromDiscordRole := Eligibility.canBenefitFromDiscordRole valid
    canUseClassroomFeature := Eligibility.canUseClassroomFeature limits
    shouldHideClassroomTab := Eligibility.shouldHideClassroomTab limits
    canUseCloudProjectHistory := Eligibility.canUseCloudProjectHistory limits }

end Snapshot

end Entitlement
