import Entitlement.Plan

/-!
The summary of a plan's features: the lines that are marked for it and have a name.
-/

namespace Entitlement

open Record

structure FeatureLine where
  displayedName : String
  description : Option String
  enabled : Option Availability
  unlimited : Option Bool
  upcoming : Option Bool
  trialLike : Option Bool
  deriving DecidableEq, Repr

namespace FeatureLine

def codec : Codec FeatureLine :=
  .record "SummarizedPlanFeature"
    (.field "displayedFeatureName" .text .required <|
      .field "description" (.option .text) .optional <|
      .field "enabled" (.option Availability.codec) .optional <|
      .field "unlimited" (.option .bool) .optional <|
      .field "upcoming" (.option .bool) .optional <|
      .field "trialLike" (.option .bool) .optional .nil)
    (fun (name, description, enabled, unlimited, upcoming, trialLike, ()) =>
      ⟨name, description, enabled, unlimited, upcoming, trialLike⟩)
    (fun line => (line.displayedName, line.description, line.enabled, line.unlimited,
      line.upcoming, line.trialLike, ()))

end FeatureLine

-- A switch that is off is not worth a line of its own, so only a set one is kept.
def ifSet (switch : Option Bool) : Option Bool :=
  switch.filter fun value => value

namespace PlanFeature

def isInSummary (feature : PlanFeature) : Bool := feature.displayInSummary == some true

def line (feature : PlanFeature) (locale : String) (names : Localized) : FeatureLine :=
  { displayedName := (names.select locale).getD ""
    description := feature.description.bind fun description => description.select locale
    enabled := feature.enabled
    unlimited := ifSet feature.unlimited
    upcoming := ifSet feature.upcoming
    trialLike := ifSet feature.trialLike }

end PlanFeature

namespace Offer

/-- The lines of a plan's summary. A feature without a name entry has none. -/
def featureLines (offer : Offer) (locale : String) : List FeatureLine :=
  (offer.plan.features.filter PlanFeature.isInSummary).filterMap fun feature =>
    (offer.plan.featureNames.get? feature.featureName).map (feature.line locale)

end Offer

end Entitlement
