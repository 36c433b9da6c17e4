import Entitlement.Inspector

/-!
The command line of the inspector. Its settings come from environment variables. What else it needs
it asks its host for over standard output, one JSON value a line, and reads from standard input: the
file of variables, the time in milliseconds since 1970, and the replies to its requests. The report
is printed last; without one the program ends with an exit code that is not 0.
-/

namespace Entitlement

open Json Record

namespace Host

structure Answer where
  status : UInt32
  body : String

def answerCodec : Codec Answer :=
  .record "Answer"
    (.field "status" .uint32 .required <|
      .field "body" .text (.default "") .nil)
    (fun (status, body, ()) => ⟨status, body⟩)
    (fun answer => (answer.status, answer.body, ()))

/-- Null says that there is no connection. -/
def deliveryOf : Option Answer → Delivery
  | none => .unreachable
  | some answer => .answered ⟨answer.status.toNat, Text.bytes answer.body, true⟩

def requestTree (request : Request) : Tree :=
  .object [("method", .text request.method.name), ("url", .text request.url.text),
    ("authorization", .list (request.authorizations.map .text)),
    ("contentType", optionTree .text request.contentType?), ("body", request.body.getD .null)]

def ask {α : Type} (codec : Codec α) (question : Tree) : IO (Option α) := do
  let output ← IO.getStdout
  output.putStrLn question.write
  output.flush
  let line ← (← IO.getStdin).getLine
  return (codec.ofText line).toOption

def carry (request : Request) : IO (String × Delivery) := do
  let answer ← ask answerCodec (.object [("request", requestTree request)])
  return (request.url.text, deliveryOf answer)

end Host

def variableNames : List String :=
  ["USAGE_API_URL", "USAGE_API_TIMEOUT", "USAGE_PLATFORM", "USAGE_USER_ID", "USAGE_ACCESS_TOKEN",
    "USAGE_LOCALE", "USAGE_INCLUDE_LEGACY"]

def readEnvironment : IO Environment := do
  let entries ← variableNames.filterMapM fun name => do
    return (← IO.getEnv name).map fun value => (name, value)
  return .ofTexts entries

-- Nothing is answered, so a run on this network shows what would be asked.
def silentNetwork : Network := ⟨fun _ => .unreachable, fun _ => 0⟩

def networkOf (deliveries : List (String × Delivery)) : Network :=
  ⟨fun request => (deliveries.lookup request.url.text).getD .unreachable, fun _ => 0⟩

/-- Warnings go to standard error, before anything is asked of the service. -/
def warn (environment : Environment) : IO Unit :=
  (ClientSettings.ofEnvironment environment).2.forM fun warning => IO.eprintln warning.message

def fail (fault : InspectionFault) : IO UInt32 := do
  IO.eprintln ("Error: " ++ fault.message)
  return fault.exitCode

def inspect : IO UInt32 := do
  let file ← Host.ask .text (.text "variables")
  let environment ← readEnvironment
  (environment.withFile? file).forM warn
  let asked := (Inspector.run environment file silentNetwork 0).2.sent
  let deliveries ← asked.mapM Host.carry
  let time ← Host.ask .int64 (.text "time")
  let now := (time.map Int64.toInt).getD 0
  match (Inspector.run environment file (networkOf deliveries) now).1 with
  | .ok report => do
      IO.println report.tree.writeIndented
      return 0
  | .error fault => fail fault

end Entitlement

def main : IO UInt32 := Entitlement.inspect
