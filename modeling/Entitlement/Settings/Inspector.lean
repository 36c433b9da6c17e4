import Entitlement.Localized
import Entitlement.Settings.Environment

/-!
Settings of the inspector: which account to look at, with which token, and how to show it. The
account and the token have to be given.
-/

namespace Entitlement

structure InspectorSettings where
  client : ClientSettings
  userId : String
  accessToken : String
  locale : String
  includeLegacy : Bool
  deriving DecidableEq, Repr

/-- Why there are no settings: a variable that is needed is not there, or holds nothing. -/
inductive SettingsFault where
  | unset (name : String)
  | empty (name : String)
  deriving DecidableEq, Repr

namespace SettingsFault

def message : SettingsFault → String
  | .unset name => name ++ " must be set"
  | .empty name => name ++ " must not be empty"

end SettingsFault

def Environment.required (environment : Environment) (name : String) :
    Except SettingsFault String :=
  match environment.text? name with
  | none => .error (.unset name)
  | some "" => .error (.empty name)
  | some value => .ok value

namespace InspectorSettings

def ofEnvironment (environment : Environment) : Except SettingsFault InspectorSettings := do
  let userId ← environment.required "USAGE_USER_ID"
  let accessToken ← environment.required "USAGE_ACCESS_TOKEN"
  return {
    client := (ClientSettings.ofEnvironment environment).1
    userId
    accessToken
    locale := (environment.nonEmptyText? "USAGE_LOCALE").getD defaultLocale
    includeLegacy := environment.text? "USAGE_INCLUDE_LEGACY" != some "false" }

end InspectorSettings

end Entitlement
