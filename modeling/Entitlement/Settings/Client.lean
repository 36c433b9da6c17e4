/-!
How the service is reached: its address, how long to wait for it, and the platform that is told to
it.
-/

namespace Entitlement

/-- Mobile apps are given limits of their own. -/
inductive Platform where
  | desktop
  | mobile
  deriving DecidableEq, Repr

structure ClientSettings where
  baseUrl : String
  timeoutInSeconds : UInt64
  platform : Platform
  deriving DecidableEq, Repr

namespace Platform

def all : List Platform := [.desktop, .mobile]

def name : Platform → String
  | .desktop => "desktop"
  | .mobile => "mobile"

def ofName? (name : String) : Option Platform :=
  all.find? fun platform => platform.name.toList == name.toList.map Char.toLower

end Platform

namespace ClientSettings

def defaultBaseUrl : String := "https://api.gdevelop.io/usage"

def ofBaseUrl (baseUrl : String) : ClientSettings := ⟨baseUrl, 30, .desktop⟩

def default : ClientSettings := ofBaseUrl defaultBaseUrl

def withTimeout (settings : ClientSettings) (seconds : UInt64) : ClientSettings :=
  { settings with timeoutInSeconds := seconds }

def withPlatform (settings : ClientSettings) (platform : Platform) : ClientSettings :=
  { settings with platform }

end ClientSettings

end Entitlement
