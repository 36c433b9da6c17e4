import Entitlement.Features
import Entitlement.Snapshot

/-!
The report on one account: its entitlement, the legacy plan it is still billed for, the plans it
could buy and the quotas it has used up.
-/

namespace Entitlement

open Json Record

structure PriceLine where
  id : String
  amount : Money
  currency : Currency
  period : BillingPeriod
  periodCount : UInt32
  deriving DecidableEq

structure Card where
  id : String
  name : Option String
  prices : List PriceLine
  features : List FeatureLine
  deriving DecidableEq

structure Report where
  userId : String
  entitlement : Snapshot
  legacyPlan : Option Card
  availablePlans : List Card
  exhaustedQuotas : List String
  deriving DecidableEq

def Price.line (price : Price) : PriceLine :=
  ⟨price.id, price.amount, price.currency, price.period, price.periodCount⟩

def Offer.card (offer : Offer) (locale : String) : Card :=
  { id := offer.id
    name := offer.plan.name.select locale
    prices := offer.prices.map Price.line
    features := offer.featureLines locale }

/-- Names of the quotas that are used up, in ascending order. -/
def Quotas.exhausted (quotas : List (String × Quota)) : List String :=
  ((quotas.filter fun entry => entry.2.limitReached).map (·.1)).mergeSort fun a b => a ≤ b

namespace Report

def build (catalog : Catalog) (subscription : Subscription) (limits : Limits) (locale : String)
    (now : Int) : Report :=
  let entitlement := Snapshot.resolve catalog (some subscription) (some limits) now
  { userId := subscription.userId
    entitlement
    legacyPlan := entitlement.legacyPlan.map fun offer => offer.card locale
    availablePlans :=
      (catalog.available.filter fun offer => !offer.isLegacy).map fun offer => offer.card locale
    exhaustedQuotas := Quotas.exhausted limits.quotas.entries }

end Report

def PriceLine.tree (line : PriceLine) : Tree :=
  .object [("id", .text line.id), ("amount", .text line.amount.text),
    ("currency", Currency.codec.encode line.currency),
    ("period", BillingPeriod.codec.encode line.period),
    ("period_count", .int line.periodCount.toNat)]

def Card.tree (card : Card) : Tree :=
  .object [("id", .text card.id), ("name", optionTree .text card.name),
    ("prices", .list (card.prices.map PriceLine.tree)),
    ("features", .list (card.features.map FeatureLine.codec.encode))]

def Report.tree (report : Report) : Tree :=
  .object [("user_id", .text report.userId),
    ("entitlement", Snapshot.codec.encode report.entitlement),
    ("legacy_plan", optionTree Card.tree report.legacyPlan),
    ("available_plans", .list (report.availablePlans.map Card.tree)),
    ("exhausted_quotas", .list (report.exhaustedQuotas.map .text))]

end Entitlement
