import Entitlement.Inspector
import Entitlement.Proofs.Authorization

/-!
Giving up. A caller who stops waiting has the result of one who does not, or no result at all, and
until then the same was asked of the provider and the same was sent. Which of the two it is depends
on what has arrived by then; what would have arrived later makes no difference.
-/

namespace Entitlement

variable {α β : Type}

-- What has arrived

namespace Pending

def arrivedBy (time : Nat) (pending : Pending α) : Option (Pending α) :=
  if pending.arrival ≤ time then some pending else none

def failed? (pending : Pending α) : Option (Pending β) :=
  match pending.outcome.result with
  | .error failure => some ⟨.fail failure, pending.arrival⟩
  | .ok _ => none

def bothArrived : Option (Pending α) → Option (Pending β) → Option (Pending (α × β))
  | some a, some b => some (a.both b)
  | some a, none => a.failed?
  | none, some b => b.failed?
  | none, none => none

theorem both_arrival (a : Pending α) (b : Pending β) :
    (a.both b).arrival = a.arrival ∨ (a.both b).arrival = b.arrival := by
  rw [both]
  cases a.outcome.result with
  | ok x =>
      cases b.outcome.result with
      | ok y => exact (Nat.le_total b.arrival a.arrival).imp Nat.max_eq_left Nat.max_eq_right
      | error failure => exact .inr rfl
  | error failure =>
      cases b.outcome.result with
      | ok y => exact .inl rfl
      | error other => by_cases earlier : b.arrival < a.arrival <;> simp [earlier]

theorem both_arrivedBy (time : Nat) (a : Pending α) (b : Pending β) :
    (a.both b).arrivedBy time = bothArrived (a.arrivedBy time) (b.arrivedBy time) := by
  by_cases inTime : a.arrival ≤ time <;> by_cases inTimeToo : b.arrival ≤ time
  · have whole : (a.both b).arrival ≤ time := by
      rcases both_arrival a b with same | same <;> omega
    simp [arrivedBy, inTime, inTimeToo, whole, bothArrived]
  · cases ofA : a.outcome.result <;> cases ofB : b.outcome.result <;>
      grind [both, arrivedBy, bothArrived, failed?]
  · cases ofA : a.outcome.result <;> cases ofB : b.outcome.result <;>
      grind [both, arrivedBy, bothArrived, failed?]
  · have whole : ¬ (a.both b).arrival ≤ time := by
      rcases both_arrival a b with same | same <;> omega
    simp [arrivedBy, inTime, inTimeToo, whole, bothArrived]

theorem andThen_arrivedBy (time : Nat) (started : Except Failure (Pending α))
    (next : α → Outcome β) :
    (started.map fun pending => pending.andThen next).map (arrivedBy time) =
      (started.map (arrivedBy time)).map (Option.map fun arrived => arrived.andThen next) := by
  cases started with
  | error failure => rfl
  | ok pending =>
      by_cases inTime : pending.arrival ≤ time <;> simp [Except.map, arrivedBy, andThen, inTime]

/-- A caller who gives up has what has arrived by then. -/
theorem settleBy_arrived (time : Nat) (started : Except Failure (Pending α)) :
    settleBy time started = match started.map (arrivedBy time) with
      | .error failure => .fail failure
      | .ok none => .fail .cancelled
      | .ok (some pending) => pending.outcome := by
  cases started with
  | error failure => rfl
  | ok pending => by_cases inTime : pending.arrival ≤ time <;>
      simp [settleBy, arrivedBy, inTime, Except.map]

end Pending

-- Starts

/-- Starting either way sends the same, and fails alike or has brought the same by some time. -/
def StartsAlike (time : Nat) (start other : Log → Except Failure (Pending α) × Log) : Prop :=
  ∀ log, (start log).1.map (Pending.arrivedBy time) = (other log).1.map (Pending.arrivedBy time) ∧
    (start log).2 = (other log).2

/-- A result that arrives with one of the requests that are sent for it. -/
def ArrivesWithRequest (network : Network) (start : Log → Except Failure (Pending α) × Log) :
    Prop :=
  ∀ log, ∃ sent, (start log).2.sent = log.sent ++ sent ∧
    ∀ pending, (start log).1 = .ok pending →
      ∃ request ∈ sent, pending.arrival = network.arrival request

theorem startBoth_arrivedBy (time : Nat) (first : Log → Except Failure (Pending α) × Log)
    (second : Log → Except Failure (Pending β) × Log) (log : Log) :
    (Pending.startBoth first second log).1.map (Pending.arrivedBy time) =
        ((first log).1.map (Pending.arrivedBy time)).bind (fun a =>
          ((second (first log).2).1.map (Pending.arrivedBy time)).map (Pending.bothArrived a)) ∧
      (Pending.startBoth first second log).2 =
        if ((first log).1.map (Pending.arrivedBy time)).isOk then (second (first log).2).2
        else (first log).2 := by
  rcases Pending.startBoth_cases first second log with
    ⟨_, failed, whole⟩ | ⟨_, _, ofA, failed, whole⟩ | ⟨a, b, ofA, ofB, whole⟩
  · rw [whole, failed]
    exact ⟨rfl, rfl⟩
  · rw [whole, ofA, failed]
    exact ⟨rfl, rfl⟩
  · rw [whole, ofA, ofB]
    exact ⟨congrArg Except.ok (Pending.both_arrivedBy time a b), rfl⟩

section Both

variable {first : Log → Except Failure (Pending α) × Log}
  {second : Log → Except Failure (Pending β) × Log}

theorem startBoth_arrives {network : Network} (ofFirst : ArrivesWithRequest network first)
    (ofSecond : ArrivesWithRequest network second) :
    ArrivesWithRequest network (Pending.startBoth first second) := by
  intro log
  obtain ⟨sent, sends, arrives⟩ := ofFirst log
  obtain ⟨more, sendsMore, arrivesToo⟩ := ofSecond (first log).2
  have together : (second (first log).2).2.sent = log.sent ++ (sent ++ more) := by
    rw [sendsMore, sends, List.append_assoc]
  rcases Pending.startBoth_cases first second log with
    ⟨_, _, whole⟩ | ⟨_, _, _, _, whole⟩ | ⟨a, b, ofA, ofB, whole⟩
  · rw [whole]
    exact ⟨sent, sends, nofun⟩
  · rw [whole]
    exact ⟨sent ++ more, together, nofun⟩
  · rw [whole]
    refine ⟨sent ++ more, together, ?_⟩
    rintro _ ⟨rfl⟩
    rcases Pending.both_arrival a b with withA | withB
    · obtain ⟨request, among, same⟩ := arrives a ofA
      exact ⟨request, List.mem_append_left more among, withA.trans same⟩
    · obtain ⟨request, among, same⟩ := arrivesToo b ofB
      exact ⟨request, List.mem_append_right sent among, withB.trans same⟩

theorem startBoth_alike {time : Nat} {firstOther : Log → Except Failure (Pending α) × Log}
    {secondOther : Log → Except Failure (Pending β) × Log}
    (ofFirst : StartsAlike time first firstOther) (ofSecond : StartsAlike time second secondOther) :
    StartsAlike time (Pending.startBoth first second)
      (Pending.startBoth firstOther secondOther) := by
  intro log
  obtain ⟨alike, logged⟩ := ofFirst log
  obtain ⟨alikeToo, loggedToo⟩ := ofSecond (first log).2
  obtain ⟨whole, after⟩ := startBoth_arrivedBy time first second log
  obtain ⟨wholeOther, afterOther⟩ := startBoth_arrivedBy time firstOther secondOther log
  rw [whole, after, wholeOther, afterOther, ← logged, ← alike, ← alikeToo, ← loggedToo]
  exact ⟨rfl, rfl⟩

end Both

def Network.AlikeUntil (time : Nat) (network other : Network) : Prop :=
  ∀ request, (network.deliver request = other.deliver request ∧
      network.arrival request = other.arrival request) ∨
    (time < network.arrival request ∧ time < other.arrival request)

section Calls

variable (client : Client) (provider : Provider)

theorem endpoint_arrives (endpoint : Endpoint α) (network : Network) :
    ArrivesWithRequest network (endpoint.start client provider network) := by
  intro log
  rw [start_attempt]
  refine ⟨_, rfl, fun pending started => ?_⟩
  cases sent : (endpoint.attempt client provider log.asked).sent with
  | error failure =>
      rw [sent] at started
      cases started
  | ok request =>
      rw [sent] at started
      cases started
      exact ⟨request, by simp [Attempt.requests, sent, Except.toOption], rfl⟩

theorem endpoint_alike (endpoint : Endpoint α) {time : Nat} {network other : Network}
    (alike : network.AlikeUntil time other) :
    StartsAlike time (endpoint.start client provider network)
      (endpoint.start client provider other) := by
  intro log
  rw [start_attempt, start_attempt]
  refine ⟨?_, rfl⟩
  cases (endpoint.attempt client provider log.asked).sent with
  | error failure => rfl
  | ok request =>
      apply congrArg Except.ok
      rcases alike request with ⟨sameDelivery, sameArrival⟩ | ⟨late, lateToo⟩
      · rw [Endpoint.pending, Endpoint.pending, sameDelivery, sameArrival]
      · simp [Pending.arrivedBy, Endpoint.pending, Nat.not_le_of_lt late, Nat.not_le_of_lt lateToo]

theorem call_arrives (call : Call α) (network : Network) :
    ArrivesWithRequest network (call.start client provider network) := by
  rw [Call.start]
  cases call.shape client.platform with
  | single endpoint => exact endpoint_arrives client provider endpoint network
  | joined first second combine =>
      intro log
      obtain ⟨sent, sends, arrives⟩ := startBoth_arrives
        (endpoint_arrives client provider first network)
        (endpoint_arrives client provider second network) log
      refine ⟨sent, sends, fun pending started => ?_⟩
      rw [Call.startShape] at started
      obtain ⟨both, underWay, rfl⟩ := (map_ok _ _ _).mp started
      exact arrives both underWay

theorem call_alike (call : Call α) {time : Nat} {network other : Network}
    (alike : network.AlikeUntil time other) :
    StartsAlike time (call.start client provider network) (call.start client provider other) := by
  rw [Call.start, Call.start]
  cases call.shape client.platform with
  | single endpoint => exact endpoint_alike client provider endpoint alike
  | joined first second combine =>
      intro log
      obtain ⟨same, logged⟩ := startBoth_alike (endpoint_alike client provider first alike)
        (endpoint_alike client provider second alike) log
      refine ⟨?_, logged⟩
      rw [Call.startShape, Call.startShape, Pending.andThen_arrivedBy, Pending.andThen_arrivedBy,
        same]

end Calls

-- Giving up

section Waiting

variable (start : Log → Except Failure (Pending α) × Log) (log : Log)

theorem wait_result (cancellation : Cancellation) :
    (cancellation.wait start log).1 = (Cancellation.never.wait start log).1 ∨
      (cancellation.wait start log).1 = .fail .cancelled := by
  cases cancellation with
  | never => exact .inl rfl
  | before => exact .inr rfl
  | after time =>
      rw [Cancellation.wait, Cancellation.wait]
      rcases start log with ⟨_ | pending, after⟩
      · exact .inl rfl
      · by_cases inTime : pending.arrival ≤ time
        · exact .inl (if_pos inTime)
        · exact .inr (if_neg inTime)

theorem wait_logged (cancellation : Cancellation) :
    (cancellation.wait start log).2 =
      if cancellation = .before then log else (Cancellation.never.wait start log).2 := by
  cases cancellation <;> simp [Cancellation.wait]

/-- Who waits for all requests that are sent has the result. -/
theorem wait_patient {network : Network} (arrives : ArrivesWithRequest network start) (time : Nat)
    (sent : List Request) (sends : (start log).2.sent = log.sent ++ sent)
    (inTime : ∀ request ∈ sent, network.arrival request ≤ time) :
    (Cancellation.after time).wait start log = Cancellation.never.wait start log := by
  obtain ⟨others, sendsOthers, arrival⟩ := arrives log
  obtain rfl : sent = others := List.append_cancel_left (sends.symm.trans sendsOthers)
  rw [Cancellation.wait, Cancellation.wait]
  cases started : (start log).1 with
  | error failure => rfl
  | ok pending =>
      obtain ⟨request, among, same⟩ := arrival pending started
      have arrived : pending.arrival ≤ time := same ▸ inTime request among
      rw [Pending.settleBy, if_pos arrived, Pending.settle]

theorem wait_longer (time later : Nat) (longer : time ≤ later)
    (had : ((Cancellation.after time).wait start log).1 = (Cancellation.never.wait start log).1) :
    ((Cancellation.after later).wait start log).1 = (Cancellation.never.wait start log).1 := by
  rw [Cancellation.wait, Cancellation.wait] at had ⊢
  revert had
  rcases start log with ⟨_ | pending, after⟩
  · exact id
  · intro had
    by_cases inTime : pending.arrival ≤ time
    · exact if_pos (Nat.le_trans inTime longer)
    · have nothing : Outcome.fail .cancelled = pending.outcome := (if_neg inTime).symm.trans had
      by_cases arrived : pending.arrival ≤ later
      · exact if_pos arrived
      · exact (if_neg arrived).trans nothing

/-- What would have arrived later makes no difference. -/
theorem wait_alike {time : Nat} {other : Log → Except Failure (Pending α) × Log}
    (alike : StartsAlike time start other) :
    (Cancellation.after time).wait start log = (Cancellation.after time).wait other log := by
  obtain ⟨same, logged⟩ := alike log
  rw [Cancellation.wait, Cancellation.wait, Pending.settleBy_arrived, Pending.settleBy_arrived,
    same, logged]

end Waiting

structure Call.GivenUp (client : Client) (provider : Provider) (network : Network) (log : Log)
    (call : Call α) : Prop where
  result : ∀ cancellation,
    (call.runUnless cancellation client provider network log).1 =
        (call.run client provider network log).1 ∨
      (call.runUnless cancellation client provider network log).1 = .fail .cancelled
  logged : ∀ cancellation, (call.runUnless cancellation client provider network log).2 =
    if cancellation = .before then log else (call.run client provider network log).2
  patient : ∀ time, (∀ request ∈ Attempt.requests (call.attempts client provider log.asked),
      network.arrival request ≤ time) →
    call.runUnless (.after time) client provider network log = call.run client provider network log
  longer : ∀ time later, time ≤ later →
    (call.runUnless (.after time) client provider network log).1 =
        (call.run client provider network log).1 →
      (call.runUnless (.after later) client provider network log).1 =
        (call.run client provider network log).1
  unseen : ∀ time other, network.AlikeUntil time other →
    call.runUnless (.after time) client provider network log =
      call.runUnless (.after time) client provider other log

/-- A call that is given up ends as it would have, or with the cancellation, whenever that happens.
Either way it has asked the provider and sent its requests, unless it was given up before. -/
theorem call_given_up (call : Call α) (client : Client) (provider : Provider) (network : Network)
    (log : Log) : call.GivenUp client provider network log where
  result := wait_result _ log
  logged := wait_logged _ log
  patient time := wait_patient _ log (call_arrives client provider call network) time _
    (congrArg Log.sent (run_log call client provider network log))
  longer := wait_longer _ log
  unseen _ _ alike := wait_alike _ log (call_alike client provider call alike)

/-- What is asked of a provider and sent while calls are made one after the other, each of which its
caller may give up. -/
def Log.afterUnless (client : Client) (provider : Provider) :
    List (Cancellation × Occasion) → Log → Log
  | [], log => log
  | (cancellation, occasion) :: rest, log =>
      Log.afterUnless client provider rest
        (occasion.call.runUnless cancellation client provider occasion.network log).2

/-- Calls that are given up count as calls that are made, unless they are given up before. -/
theorem afterUnless_made (client : Client) (provider : Provider)
    (occasions : List (Cancellation × Occasion)) (log : Log) :
    Log.afterUnless client provider occasions log =
      Log.after client provider
        ((occasions.filter fun occasion => occasion.1 ≠ .before).map Prod.snd) log := by
  induction occasions generalizing log with
  | nil => rfl
  | cons first rest ih =>
      obtain ⟨cancellation, occasion⟩ := first
      rw [Log.afterUnless, ih,
        (call_given_up occasion.call client provider occasion.network log).logged]
      by_cases before : cancellation = .before <;> simp [before, Log.after]

-- The inspector

theorem inspector_arrives (settings : InspectorSettings) (client : Client) (network : Network) :
    ArrivesWithRequest network (settings.start client network) :=
  startBoth_arrives (call_arrives client _ settings.catalogCall network) <|
    startBoth_arrives (call_arrives client _ (.subscription settings.userId) network)
      (call_arrives client _ (.limits settings.userId) network)

theorem inspector_alike (settings : InspectorSettings) (client : Client) {time : Nat}
    {network other : Network} (alike : network.AlikeUntil time other) :
    StartsAlike time (settings.start client network) (settings.start client other) :=
  startBoth_alike (call_alike client _ settings.catalogCall alike) <|
    startBoth_alike (call_alike client _ (.subscription settings.userId) alike)
      (call_alike client _ (.limits settings.userId) alike)

namespace Inspector

structure Interrupted (environment : Environment) (file : Option String) (network : Network)
    (now : Int) : Prop where
  result : ∀ cancellation,
    (runUnless cancellation environment file network now).1 =
        (run environment file network now).1 ∨
      (runUnless cancellation environment file network now).1 = .error (.service .cancelled)
  logged : ∀ cancellation, (runUnless cancellation environment file network now).2 =
    if cancellation = .before then .start else (run environment file network now).2
  unsettled : ∀ fault, settings environment file = .error fault → ∀ cancellation,
    (runUnless cancellation environment file network now).1 = .error fault
  patient : ∀ time, (∀ request ∈ (run environment file network now).2.sent,
      network.arrival request ≤ time) →
    runUnless (.after time) environment file network now = run environment file network now
  unseen : ∀ time other, network.AlikeUntil time other →
    runUnless (.after time) environment file network now =
      runUnless (.after time) environment file other now

/-- A run has failed before anything is started, or it waits for what its settings need. -/
theorem run_cases (environment : Environment) (file : Option String) :
    (∃ fault, ∀ cancellation network now,
        runUnless cancellation environment file network now = (.error fault, .start)) ∨
      ∃ (used : InspectorSettings) (client : Client), settings environment file = .ok used ∧
        ∀ cancellation network now,
          runUnless cancellation environment file network now =
            ((((cancellation.wait (used.start client network) .start).1.result.map
                (used.report now)).mapError .service),
              (cancellation.wait (used.start client network) .start).2) := by
  cases chosen : settings environment file with
  | error fault =>
      refine .inl ⟨fault, fun cancellation network now => ?_⟩
      rw [runUnless, chosen]
  | ok used =>
      cases made : Client.ofSettings used.client with
      | error failure =>
          refine .inl ⟨.service failure, fun cancellation network now => ?_⟩
          rw [runUnless, chosen]
          dsimp only
          rw [inspect, made]
          rfl
      | ok client =>
          refine .inr ⟨used, client, rfl, fun cancellation network now => ?_⟩
          rw [runUnless, chosen]
          dsimp only
          rw [inspect, made]

/-- A run that is interrupted prints the report that it would have printed, or none. -/
theorem run_interrupted (environment : Environment) (file : Option String) (network : Network)
    (now : Int) : Interrupted environment file network now := by
  rcases run_cases environment file with ⟨fault, runs⟩ | ⟨used, client, chosen, runs⟩
  · constructor
    case result =>
      intro cancellation
      rw [run, runs, runs]
      exact .inl rfl
    case logged =>
      intro cancellation
      rw [run, runs, runs]
      exact (ite_self _).symm
    case unsettled =>
      intro other chosen cancellation
      rw [runUnless, chosen]
    case patient =>
      intro time _
      rw [run, runs, runs]
    case unseen =>
      intro time other _
      rw [runs, runs]
  · constructor
    case result =>
      intro cancellation
      rw [run, runs, runs]
      rcases wait_result (used.start client network) .start cancellation with same | cancelled
      · exact .inl (by rw [same])
      · exact .inr (by rw [cancelled]; rfl)
    case logged =>
      intro cancellation
      rw [run, runs, runs]
      exact wait_logged (used.start client network) .start cancellation
    case unsettled =>
      intro fault failed
      rw [chosen] at failed
      cases failed
    case patient =>
      intro time inTime
      rw [run, runs] at inTime
      rw [run, runs, runs, wait_patient _ .start (inspector_arrives used client network) time _
        (List.nil_append _).symm inTime]
    case unseen =>
      intro time other alike
      rw [runs, runs, wait_alike _ .start (inspector_alike used client alike)]

end Inspector

end Entitlement
