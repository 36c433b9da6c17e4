import Entitlement.Report
import Entitlement.Service.Run
import Entitlement.Settings.EnvFile
import Entitlement.Settings.Inspector

/-!
The inspector: it asks for the catalog, the subscription and the limits of one account at the same
time and reports on what they say together. If one of them is missing there is no report.
-/

namespace Entitlement

inductive InspectionFault where
  | variables
  | settings (fault : SettingsFault)
  | service (failure : Failure)
  deriving DecidableEq, Repr

namespace InspectionFault

def message : InspectionFault → String
  | .variables => "a variable cannot hold a NUL character"
  | .settings fault => fault.message
  | .service failure => failure.message

/-- Variables that cannot be set are no ordinary failure. -/
def exitCode : InspectionFault → UInt32
  | .variables => 101
  | _ => 1

end InspectionFault

namespace InspectorSettings

def catalogCall (settings : InspectorSettings) : Call Catalog :=
  .catalog settings.includeLegacy (some settings.userId)

def provider (settings : InspectorSettings) : Provider :=
  BearerToken.provider ⟨settings.accessToken⟩

def start (settings : InspectorSettings) (client : Client) (network : Network) :
    Log → Except Failure (Pending (Catalog × Subscription × Limits)) × Log :=
  Pending.startBoth (settings.catalogCall.start client settings.provider network) <|
    Pending.startBoth
      ((Call.subscription settings.userId).start client settings.provider network)
      ((Call.limits settings.userId).start client settings.provider network)

def report (settings : InspectorSettings) (now : Int) (found : Catalog × Subscription × Limits) :
    Report :=
  .build found.1 found.2.1 found.2.2 settings.locale now

end InspectorSettings

/-- The environment after a file of variables, if there is one; `none` if it cannot hold them. -/
def Environment.withFile? (environment : Environment) : Option String → Option Environment
  | none => some environment
  | some file => EnvFile.load? environment file

namespace Inspector

def inspect (cancellation : Cancellation) (settings : InspectorSettings) (network : Network)
    (now : Int) : Except Failure Report × Log :=
  match Client.ofSettings settings.client with
  | .error failure => (.error failure, .start)
  | .ok client =>
      let ended := cancellation.wait (settings.start client network) .start
      (ended.1.result.map (settings.report now), ended.2)

def settings (environment : Environment) (file : Option String) :
    Except InspectionFault InspectorSettings :=
  match environment.withFile? file with
  | none => .error .variables
  | some environment => (InspectorSettings.ofEnvironment environment).mapError .settings

/-- Runs the inspector. An interrupt drops what is under way. -/
def runUnless (cancellation : Cancellation) (environment : Environment) (file : Option String)
    (network : Network) (now : Int) : Except InspectionFault Report × Log :=
  match settings environment file with
  | .error fault => (.error fault, .start)
  | .ok settings =>
      let (result, log) := inspect cancellation settings network now
      (result.mapError .service, log)

def run (environment : Environment) (file : Option String) (network : Network) (now : Int) :
    Except InspectionFault Report × Log :=
  runUnless .never environment file network now

end Inspector

end Entitlement
