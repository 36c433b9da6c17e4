import Entitlement.Service.Call

/-!
Running calls. A provider is asked for a header just before the request that carries it; a request
that cannot be built is not sent. Requests that are under way together complete in any order, and
the first failure to arrive ends the wait for the others.
-/

namespace Entitlement

/-- What becomes of each request, and at which time. A request is what is handed over to be sent and
its delivery is what comes back in the end: redirects have been followed in between. -/
structure Network where
  deliver : Request → Delivery
  arrival : Request → Nat

structure Log where
  asked : Nat
  sent : List Request

def Log.start : Log := ⟨0, []⟩

structure Pending (α : Type) where
  outcome : Outcome α
  arrival : Nat

namespace Pending

variable {α β : Type}

/-- Waits for two calls at once. The first failure to arrive ends the wait. -/
def both (a : Pending α) (b : Pending β) : Pending (α × β) :=
  match a.outcome.result, b.outcome.result with
  | .ok x, .ok y =>
      ⟨⟨.ok (x, y), a.outcome.warnings ++ b.outcome.warnings⟩, max a.arrival b.arrival⟩
  | .error failure, .ok _ => ⟨.fail failure, a.arrival⟩
  | .ok _, .error failure => ⟨.fail failure, b.arrival⟩
  | .error failure, .error other =>
      if b.arrival < a.arrival then ⟨.fail other, b.arrival⟩ else ⟨.fail failure, a.arrival⟩

def andThen (pending : Pending α) (next : α → Outcome β) : Pending β :=
  ⟨pending.outcome.andThen next, pending.arrival⟩

end Pending

def Delivery.outcome {α : Type} (read : Reply → Outcome α) : Delivery → Outcome α
  | .unreachable => .fail (.transport .unreachable)
  | .closed => .fail (.transport .closed)
  | .answered reply => read reply

namespace Endpoint

variable {α : Type}

def prepare (endpoint : Endpoint α) (client : Client) (provider : Provider) (log : Log) :
    Except Failure Request × Log :=
  if endpoint.isForUser then
    (do client.request endpoint.ask (some (← provider log.asked)),
      { log with asked := log.asked + 1 })
  else (client.request endpoint.ask none, log)

def pending (endpoint : Endpoint α) (network : Network) (request : Request) : Pending α :=
  ⟨(network.deliver request).outcome endpoint.read, network.arrival request⟩

def start (endpoint : Endpoint α) (client : Client) (provider : Provider) (network : Network)
    (log : Log) : Except Failure (Pending α) × Log :=
  match endpoint.prepare client provider log with
  | (.error failure, log) => (.error failure, log)
  | (.ok request, log) =>
      (.ok (endpoint.pending network request), { log with sent := log.sent ++ [request] })

end Endpoint

/-- Starts a second call after the first. A failure to start is the failure of both. Providers
answer at once here: behind one that has to be awaited, the second call starts before the first has
failed. -/
def Pending.startBoth {α β : Type} (first : Log → Except Failure (Pending α) × Log)
    (second : Log → Except Failure (Pending β) × Log) (log : Log) :
    Except Failure (Pending (α × β)) × Log :=
  match first log with
  | (.error failure, log) => (.error failure, log)
  | (.ok a, log) =>
      match second log with
      | (.error failure, log) => (.error failure, log)
      | (.ok b, log) => (.ok (a.both b), log)

/-- The ways in which two starts can go. -/
theorem Pending.startBoth_cases {α β : Type} (first : Log → Except Failure (Pending α) × Log)
    (second : Log → Except Failure (Pending β) × Log) (log : Log) :
    (∃ failure, (first log).1 = .error failure ∧
      Pending.startBoth first second log = (.error failure, (first log).2)) ∨
    (∃ a failure, (first log).1 = .ok a ∧ (second (first log).2).1 = .error failure ∧
      Pending.startBoth first second log = (.error failure, (second (first log).2).2)) ∨
    (∃ a b, (first log).1 = .ok a ∧ (second (first log).2).1 = .ok b ∧
      Pending.startBoth first second log = (.ok (a.both b), (second (first log).2).2)) := by
  rw [Pending.startBoth]
  rcases first log with ⟨_ | a, after⟩
  · exact .inl ⟨_, rfl, rfl⟩
  · dsimp only
    rcases second after with ⟨_ | b, afterBoth⟩
    · exact .inr (.inl ⟨a, _, rfl, rfl, rfl⟩)
    · exact .inr (.inr ⟨a, b, rfl, rfl, rfl⟩)

namespace Call

variable {α : Type}

def startShape (client : Client) (provider : Provider) (network : Network) :
    Shape α → Log → Except Failure (Pending α) × Log
  | .single endpoint, log => endpoint.start client provider network log
  | .joined first second combine, log =>
      let started := Pending.startBoth (first.start client provider network)
        (second.start client provider network) log
      (started.1.map fun pending => pending.andThen fun both => combine both.1 both.2, started.2)

def start (call : Call α) (client : Client) (provider : Provider) (network : Network) :
    Log → Except Failure (Pending α) × Log :=
  startShape client provider network (call.shape client.platform)

end Call

def Pending.settle {α : Type} : Except Failure (Pending α) → Outcome α
  | .error failure => .fail failure
  | .ok pending => pending.outcome

def Call.run {α : Type} (call : Call α) (client : Client) (provider : Provider)
    (network : Network) (log : Log) : Outcome α × Log :=
  let started := call.start client provider network log
  (Pending.settle started.1, started.2)

structure Occasion where
  {Result : Type}
  call : Call Result
  network : Network

def Log.after (client : Client) (provider : Provider) : List Occasion → Log → Log
  | [], log => log
  | occasion :: rest, log =>
      Log.after client provider rest
        (occasion.call.run client provider occasion.network log).2

-- Giving up

/-- When a caller gives up: never, before anything is started, or while waiting for what was
started. A token that is cancelled already may be noticed before the start or right after it, at
time 0. -/
inductive Cancellation where
  | never
  | before
  | after (time : Nat)
  deriving DecidableEq, Repr

/-- What has not arrived by the time of giving up is dropped. -/
def Pending.settleBy {α : Type} (time : Nat) : Except Failure (Pending α) → Outcome α
  | .error failure => .fail failure
  | .ok pending => if pending.arrival ≤ time then pending.outcome else .fail .cancelled

def Cancellation.wait {α : Type} (cancellation : Cancellation)
    (start : Log → Except Failure (Pending α) × Log) (log : Log) : Outcome α × Log :=
  match cancellation with
  | .never => (Pending.settle (start log).1, (start log).2)
  | .before => (.fail .cancelled, log)
  | .after time => (Pending.settleBy time (start log).1, (start log).2)

def Call.runUnless {α : Type} (cancellation : Cancellation) (call : Call α) (client : Client)
    (provider : Provider) (network : Network) (log : Log) : Outcome α × Log :=
  cancellation.wait (call.start client provider network) log

end Entitlement
