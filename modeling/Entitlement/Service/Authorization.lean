import Entitlement.Service.Failure
import Entitlement.Text.Quoted

/-!
Authorization. Nobody keeps credentials here: whenever a request is made for a user, a provider is
asked for the value of its header.
-/

namespace Entitlement

/-- The answers of a provider, in the order in which it is asked. It gives each of them at once. -/
abbrev Provider := Nat → Except Failure String

structure BearerToken where
  token : String

structure UserContext where
  userId : String
  provider : Provider

namespace BearerToken

def header (bearer : BearerToken) : String := "Bearer " ++ bearer.token

/-- How a token is shown: not at all. -/
def shown (_bearer : BearerToken) : String := "BearerToken(***)"

def provider (bearer : BearerToken) : Provider := fun _ => .ok bearer.header

end BearerToken

namespace UserContext

/-- How a user is shown, without the means to act as that user. -/
def shown (user : UserContext) : String :=
  "UserContext \x7b user_id: " ++ Text.quoted user.userId ++ ", .. \x7d"

end UserContext

-- The value of a header has no control characters but the tab.
def isHeaderChar (c : Char) : Bool := c == '\t' || (' ' ≤ c && c != '\x7f')

def isHeaderValue (value : String) : Bool := value.toList.all isHeaderChar

end Entitlement
