import Entitlement.Service.Request

/-!
Links to the checkout page. A link is built here and followed in a browser; no request is made.
-/

namespace Entitlement.Client

def checkoutPath : String := "/subscription-v2/action/redirect-to-checkout-v2"

/-- How many seats to buy; one seat is not mentioned. -/
def ofQuantity (quantity : Option UInt32) : List (String × String) :=
  ((quantity.filter (1 < ·)).map fun quantity => ("quantity", toString quantity.toNat)).toList

def checkoutUrl (client : Client) (priceId userId email : String) (quantity : Option UInt32) :
    Except Failure String :=
  match Url.read (client.address checkoutPath) with
  | .error fault => .error (.invalidUrl fault.message)
  | .ok url =>
      .ok (url.withPairs ([("pricingSystemId", priceId), ("userId", userId),
        ("customerEmail", email)] ++ ofQuantity quantity)).text

end Entitlement.Client
