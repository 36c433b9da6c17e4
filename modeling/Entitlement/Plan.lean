import Entitlement.Localized
import Entitlement.Price

/-!
Subscription plans: what they offer, in every language, and the plan together with its prices.
-/

namespace Entitlement

open Record

inductive Audience where
  | casual
  | pro
  | education
  deriving DecidableEq, Repr

inductive Availability where
  | yes
  | no
  deriving DecidableEq, Repr

structure PlanFeature where
  featureName : String
  pillarName : String
  description : Option Localized
  tooltip : Option Localized
  enabled : Option Availability
  unlimited : Option Bool
  upcoming : Option Bool
  trialLike : Option Bool
  displayInSummary : Option Bool
  deriving DecidableEq

structure Plan where
  id : String
  isLegacy : Bool
  name : Localized
  description : Localized
  bulletPoints : List Localized
  specificRequirement : Option Localized
  audiences : List Audience
  features : List PlanFeature
  pillarNames : Dict Localized
  featureNames : Dict Localized
  deriving DecidableEq

structure Offer where
  plan : Plan
  prices : List Price
  deriving DecidableEq

-- Ids of the plans that have rules of their own.
namespace PlanId

def silver : String := "gdevelop_silver"
def gold : String := "gdevelop_gold"
def startup : String := "gdevelop_startup"
def education : String := "gdevelop_education"

end PlanId

def leastEducationSeats : UInt32 := 5
def greatestEducationSeats : UInt32 := 300

namespace Audience

def all : List Audience := [.casual, .pro, .education]

def name : Audience → String
  | .casual => "CASUAL"
  | .pro => "PRO"
  | .education => "EDUCATION"

def codec : Codec Audience := .choice all name

end Audience

namespace Availability

def all : List Availability := [.yes, .no]

def name : Availability → String
  | .yes => "yes"
  | .no => "no"

def codec : Codec Availability := .choice all name

end Availability

namespace PlanFeature

def codec : Codec PlanFeature :=
  .record "PlanFeature"
    (.field "featureName" .text .required <|
      .field "pillarName" .text .required <|
      .field "descriptionByLocale" (.option Localized.codec) .optional <|
      .field "tooltipByLocale" (.option Localized.codec) .optional <|
      .field "enabled" (.option Availability.codec) .optional <|
      .field "unlimited" (.option .bool) .optional <|
      .field "upcoming" (.option .bool) .optional <|
      .field "trialLike" (.option .bool) .optional <|
      .field "displayInSummary" (.option .bool) .optional .nil)
    (fun (name, pillar, description, tooltip, enabled, unlimited, upcoming, trialLike, shown, ()) =>
      ⟨name, pillar, description, tooltip, enabled, unlimited, upcoming, trialLike, shown⟩)
    (fun feature => (feature.featureName, feature.pillarName, feature.description,
      feature.tooltip, feature.enabled, feature.unlimited, feature.upcoming, feature.trialLike,
      feature.displayInSummary, ()))

end PlanFeature

namespace Plan

def fieldTypes : List Type :=
  [String, Bool, Localized, Localized, List Localized, Option Localized, List Audience,
    List PlanFeature, Dict Localized, Dict Localized]

def fields : Fields fieldTypes :=
  .field "id" .text .required <|
    .field "isLegacy" .bool .required <|
    .field "nameByLocale" Localized.codec .required <|
    .field "descriptionByLocale" Localized.codec .required <|
    .field "bulletPointsByLocale" (.list Localized.codec) (.default []) <|
    .field "specificRequirementByLocale" (.option Localized.codec) .optional <|
    .field "targetAudiences" (.list Audience.codec) (.default []) <|
    .field "fullFeatures" (.list PlanFeature.codec) (.default []) <|
    .field "pillarNamesPerLocale" (.dict Localized.codec) (.default .empty) <|
    .field "featureNamesByLocale" (.dict Localized.codec) (.default .empty) .nil

def ofRow : Row fieldTypes → Plan :=
  fun (id, isLegacy, name, description, bullets, requirement, audiences, features, pillars,
      featureNames, ()) =>
    ⟨id, isLegacy, name, description, bullets, requirement, audiences, features, pillars,
      featureNames⟩

def row (plan : Plan) : Row fieldTypes :=
  (plan.id, plan.isLegacy, plan.name, plan.description, plan.bulletPoints,
    plan.specificRequirement, plan.audiences, plan.features, plan.pillarNames,
    plan.featureNames, ())

def codec : Codec Plan := .record "SubscriptionPlan" fields ofRow row

end Plan

namespace Offer

def id (offer : Offer) : String := offer.plan.id

def isLegacy (offer : Offer) : Bool := offer.plan.isLegacy

def withPrices (offer : Offer) (prices : List Price) : Offer := { offer with prices }

/-- An offer is one flat object: the members of the plan, and its prices. -/
def codec : Codec Offer :=
  .flattened "SubscriptionPlanWithPricingSystems"
    (.field "pricingSystems" (.list Price.codec) .required .nil)
    Plan.fields
    (fun (prices, ()) plan => ⟨Plan.ofRow plan, prices⟩)
    (fun offer => ((offer.prices, ()), offer.plan.row))

end Offer

end Entitlement
