import Entitlement.Limits
import Entitlement.Price
import Entitlement.Plan
import Entitlement.Subscription

/-!
What an account may do, as far as its subscription and its limits decide it. An account without a
subscription may do nothing that asks for one.
-/

namespace Entitlement

def upgradeExcludedPlanIds : List String := [PlanId.education, PlanId.startup]

def roleBenefitPlanIds : List String := [PlanId.education, PlanId.startup, PlanId.gold]

namespace Subscription

def isFromStore (subscription : Subscription) : Bool :=
  (subscription.purchaselyPlan.bind nonEmpty?).isSome

def wasManuallyAdded (subscription : Subscription) : Bool :=
  subscription.priceId == some OutOfBand.manuallyAdded

def isComingFromTeam (subscription : Subscription) : Bool :=
  subscription.priceId == some OutOfBand.teamMember

/-- Whether the subscription gives a plan at an instant. A redeemed plan ends with its time. -/
def hasValidPlan (subscription : Subscription) (now : Int) : Bool :=
  subscription.planId.isSome && match subscription.redemptionCodeValidUntil with
    | none => true
    | some validUntil => now < validUntil.toInt

def hasPlanIn (subscription : Subscription) (planIds : List String) : Bool :=
  match subscription.planId with
  | none => false
  | some planId => planIds.contains planId

def canUpgrade (subscription : Subscription) : Bool :=
  !subscription.hasPlanIn upgradeExcludedPlanIds && !subscription.benefitsFromEducationPlan

def canBenefitFromRole (subscription : Subscription) : Bool :=
  subscription.hasPlanIn roleBenefitPlanIds && !subscription.benefitsFromEducationPlan

/-- Whether a plan can be changed without going through checkout again: never. -/
def canSeamlesslyChange (_subscription : Subscription) (_planId : String) : Bool := false

end Subscription

namespace Eligibility

def hasMobileAppStoreSubscription (subscription : Option Subscription) : Bool :=
  subscription.any Subscription.isFromStore

def wasManuallyAdded (subscription : Option Subscription) : Bool :=
  subscription.any Subscription.wasManuallyAdded

def isComingFromTeam (subscription : Option Subscription) : Bool :=
  subscription.any Subscription.isComingFromTeam

def hasValidSubscriptionPlan (subscription : Option Subscription) (now : Int) : Bool :=
  subscription.any fun subscription => subscription.hasValidPlan now

def canUpgradeSubscription (subscription : Option Subscription) : Bool :=
  subscription.any Subscription.canUpgrade

def canBenefitFromDiscordRole (subscription : Option Subscription) : Bool :=
  subscription.any Subscription.canBenefitFromRole

def classrooms? (limits : Option Limits) : Option Classrooms :=
  limits.bind fun limits => limits.capabilities.classrooms

def canUseClassroomFeature (limits : Option Limits) : Bool :=
  (classrooms? limits).any fun classrooms => classrooms.showClassroomTab

def shouldHideClassroomTab (limits : Option Limits) : Bool :=
  (classrooms? limits).any fun classrooms => !classrooms.showClassroomTab

def canUseCloudProjectHistory (limits : Option Limits) : Bool :=
  limits.any fun limits => limits.capabilities.versionHistory.enabled

end Eligibility

end Entitlement
