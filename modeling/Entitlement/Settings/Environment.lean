import Entitlement.Record.Dict
import Entitlement.Service.Failure
import Entitlement.Settings.Client
import Entitlement.Text.Utf8

/-!
Settings from environment variables. A variable whose value is damaged text counts as unset. Each
setting of the client hangs on one variable, and a value that makes no sense leaves it as usual.
-/

namespace Entitlement

open Text

abbrev Environment := Dict (List UInt8)

namespace Environment

def text? (environment : Environment) (name : String) : Option String :=
  (environment.get? name).bind intact?

def nonEmptyText? (environment : Environment) (name : String) : Option String :=
  (environment.text? name).filter (· ≠ "")

def set (environment : Environment) (name value : String) : Environment :=
  environment.insert name (bytes value)

def ofTexts (entries : List (String × String)) : Environment :=
  .ofList (entries.map fun entry => (entry.1, bytes entry.2))

end Environment

def digit? (c : Char) : Option Nat :=
  if c.isDigit then some (c.toNat - 48) else none

def decimal? : List Char → Option Nat
  | [] => none
  | digits => digits.foldlM (fun value c => (digit? c).map (value * 10 + ·)) 0

def withoutPlus : List Char → List Char
  | '+' :: rest => rest
  | text => text

/-- A number of seconds: digits, with or without a plus sign, and less than 2 to the 64th. -/
def seconds? (text : String) : Option UInt64 :=
  ((decimal? (withoutPlus text.toList)).filter (· < 18446744073709551616)).map UInt64.ofNat

def platformOf (text : String) : Platform × List Warning :=
  match Platform.ofName? text with
  | some platform => (platform, [])
  | none => (.desktop, [.unknownPlatform])

namespace ClientSettings

def ofEnvironment (environment : Environment) : ClientSettings × List Warning :=
  let baseUrl := (environment.nonEmptyText? "USAGE_API_URL").getD defaultBaseUrl
  let usual := ofBaseUrl baseUrl
  let timeout := (environment.text? "USAGE_API_TIMEOUT").bind seconds?
  let (platform, warnings) := ((environment.text? "USAGE_PLATFORM").map platformOf).getD
    (usual.platform, [])
  (⟨baseUrl, timeout.getD usual.timeoutInSeconds, platform⟩, warnings)

end ClientSettings

end Entitlement
