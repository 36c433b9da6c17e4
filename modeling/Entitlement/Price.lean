import Entitlement.Money
import Entitlement.Record.Codec

/-!
Prices of subscription plans. Some price ids stand for a plan that was granted in another way; they
are no prices of the catalog.
-/

namespace Entitlement

open Record

inductive BillingPeriod where
  | week
  | month
  | year
  deriving DecidableEq, Repr

inductive Currency where
  | eur
  | usd
  deriving DecidableEq, Repr

inductive PriceStatus where
  | active
  | inactive
  deriving DecidableEq, Repr

/-- One offer to buy a plan, billed every `periodCount` periods. -/
structure Price where
  id : String
  planId : String
  period : BillingPeriod
  isPerUser : Option Bool
  currency : Currency
  region : String
  status : PriceStatus
  amountInCents : Int64
  periodCount : UInt32
  deriving DecidableEq, Repr

namespace BillingPeriod

def all : List BillingPeriod := [.week, .month, .year]

def name : BillingPeriod → String
  | .week => "week"
  | .month => "month"
  | .year => "year"

def codec : Codec BillingPeriod := .choice all name

end BillingPeriod

namespace Currency

def all : List Currency := [.eur, .usd]

def name : Currency → String
  | .eur => "EUR"
  | .usd => "USD"

def codec : Codec Currency := .choice all name

end Currency

namespace PriceStatus

def all : List PriceStatus := [.active, .inactive]

def name : PriceStatus → String
  | .active => "active"
  | .inactive => "inactive"

def codec : Codec PriceStatus := .choice all name

end PriceStatus

namespace Price

def codec : Codec Price :=
  .record "PricingSystem"
    (.field "id" .text .required <|
      .field "planId" .text .required <|
      .field "period" BillingPeriod.codec .required <|
      .field "isPerUser" (.option .bool) .optional <|
      .field "currency" Currency.codec .required <|
      .field "region" .text .required <|
      .field "status" PriceStatus.codec .required <|
      .field "amountInCents" .int64 .required <|
      .field "periodCount" .uint32 .required .nil)
    (fun (id, planId, period, isPerUser, currency, region, status, amount, count, ()) =>
      ⟨id, planId, period, isPerUser, currency, region, status, amount, count⟩)
    (fun price => (price.id, price.planId, price.period, price.isPerUser, price.currency,
      price.region, price.status, price.amountInCents, price.periodCount, ()))

def isActive (price : Price) : Bool := price.status == .active

def amount (price : Price) : Money := ⟨price.amountInCents.toInt, 2⟩

end Price

-- Price ids of plans that were granted out of band.
namespace OutOfBand

def redemptionCode : String := "REDEMPTION_CODE"

def manuallyAdded : String := "MANUALLY_ADDED"

def teamMember : String := "TEAM_MEMBER"

/-- Ids that start like this are billed by the mobile app stores. -/
def storeMark : String := "PURCHASELY_"

def ids : List String := [redemptionCode, manuallyAdded, teamMember]

end OutOfBand

def canPriceBeFoundInCatalog (priceId : String) : Bool :=
  !OutOfBand.ids.contains priceId
    && !OutOfBand.storeMark.toList.isPrefixOf priceId.toList

end Entitlement
