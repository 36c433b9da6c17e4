import Entitlement.Json.Fault
import Entitlement.Url.Fault

/-!
What a call to the service can end with instead of its result, and what it may warn of.
-/

namespace Entitlement

inductive TransportFault where
  | unbuildable
  | unreachable
  | closed
  | cutShort
  deriving DecidableEq, Repr

inductive Failure where
  | transport (fault : TransportFault)
  | invalidResponse (text : String)
  | unauthorized (text : String)
  | forbidden (text : String)
  | notFound (text : String)
  | validation (text : String)
  | status (code : Nat) (text : String)
  | unreadable (fault : Json.Fault)
  | invalidUrl (text : String)
  | authorization (text : String)
  | cancelled
  deriving DecidableEq, Repr

inductive Warning where
  | orphans (planIds : List String)
  | priceNotFound
  | earningsNotList
  | portalWithoutUrl
  | unknownPlatform
  deriving DecidableEq, Repr

namespace TransportFault

def message : TransportFault → String
  | .unbuildable => "the request could not be built"
  | .unreachable => "no connection"
  | .closed => "the connection was closed without a response"
  | .cutShort => "the response was cut short"

end TransportFault

namespace Failure

def message : Failure → String
  | .transport fault => "HTTP error: " ++ fault.message
  | .invalidResponse text => "Invalid response: " ++ text
  | .unauthorized text => "Authentication required: " ++ text
  | .forbidden text => "Permission denied: " ++ text
  | .notFound text => "Not found: " ++ text
  | .validation text => "Validation error: " ++ text
  | .status code text => "API error (" ++ toString code ++ "): " ++ text
  | .unreadable fault => "Serialization error: " ++ fault.message
  | .invalidUrl text => "Invalid URL: " ++ text
  | .authorization text => "Authorization failed: " ++ text
  | .cancelled => "Request cancelled"

def isNotFound : Failure → Bool
  | .notFound _ => true
  | _ => false

end Failure

namespace Warning

def message : Warning → String
  | .orphans _ => "Pricing systems reference plans missing from the catalog"
  | .priceNotFound => "Pricing system not found"
  | .earningsNotList => "Earnings balance response is not a list"
  | .portalWithoutUrl => "Portal response without session url"
  | .unknownPlatform => "Unknown USAGE_PLATFORM, using desktop"

def ofOrphans (planIds : List String) : List Warning :=
  if planIds.isEmpty then [] else [.orphans planIds]

end Warning

structure Outcome (α : Type) where
  result : Except Failure α
  warnings : List Warning

namespace Outcome

variable {α : Type}

def quiet (result : Except Failure α) : Outcome α := ⟨result, []⟩

def fail (failure : Failure) : Outcome α := quiet (.error failure)

end Outcome

end Entitlement
