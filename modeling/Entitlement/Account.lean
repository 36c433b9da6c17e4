import Entitlement.Features
import Entitlement.Snapshot

/-!
An account followed over time: the catalog, the account's own records, the clock and the language
change one at a time, and everything shown of the account is worked out anew from what they are.
-/

namespace Entitlement

open Json Record

structure Account where
  catalog : Catalog
  subscription : Option Subscription
  limits : Option Limits
  now : Int64
  locale : String

inductive Change where
  | setCatalog (catalog : Catalog)
  | addOffer (offer : Offer)
  | joinCatalog (plans : List Plan) (prices : List Price)
  | addAtPrices (planId : String) (prices : List Price)
  | keepAvailable
  | keepLegacy
  | setSubscription (subscription : Option Subscription)
  | patchSubscription (patch : Tree)
  | setLimits (limits : Option Limits)
  | setNow (now : Int64)
  | setLocale (locale : String)

namespace Account

def initial : Account := ⟨[], none, none, 0, defaultLocale⟩

def membersOf : Tree → List (String × Tree)
  | .object members => members
  | _ => []

/-- The record with some of its members replaced, read again. -/
def patched (subscription : Subscription) (patch : Tree) : Except Fault Subscription :=
  Subscription.codec.ofTree
    (.object (membersOf (Subscription.codec.encode subscription) ++ membersOf patch))

/-- The account after a change. A patch that gives no subscription is refused. -/
def apply (account : Account) : Change → Except Fault Account
  | .setCatalog catalog => .ok { account with catalog }
  | .addOffer offer => .ok { account with catalog := account.catalog ++ [offer] }
  | .joinCatalog plans prices => .ok { account with catalog := Catalog.join plans prices }
  | .addAtPrices planId prices =>
      let copies := (account.catalog.findPlan? planId).map fun offer => offer.withPrices prices
      .ok { account with catalog := account.catalog ++ copies.toList }
  | .keepAvailable => .ok { account with catalog := account.catalog.available }
  | .keepLegacy =>
      .ok { account with catalog := (account.catalog.legacyOffer? account.subscription).toList }
  | .setSubscription subscription => .ok { account with subscription }
  | .patchSubscription patch => do
      let subscription ← account.subscription.mapM fun subscription => patched subscription patch
      return { account with subscription }
  | .setLimits limits => .ok { account with limits }
  | .setNow now => .ok { account with now }
  | .setLocale locale => .ok { account with locale }

/-- The account after a change, or as it was if the change is refused. -/
def changed (account : Account) (change : Change) : Account :=
  match account.apply change with
  | .ok next => next
  | .error _ => account

def after (account : Account) (changes : List Change) : Account := changes.foldl changed account

/-- Plans that a change names in prices without giving them. -/
def orphansOf : Change → List String
  | .joinCatalog plans prices => Catalog.orphans plans prices
  | _ => []

def entitlement (account : Account) : Snapshot :=
  Snapshot.resolve account.catalog account.subscription account.limits account.now.toInt

def features (account : Account) : List (List FeatureLine) :=
  account.catalog.map fun offer => offer.featureLines account.locale

end Account

end Entitlement
