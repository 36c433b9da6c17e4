import Entitlement.Proofs.BaseAddress
import Entitlement.Service.Run

/-!
Authorization over whole runs. Beside the log of what was sent, a ledger keeps which answer of the
provider each request was made with. The answers in the ledger are consecutive, so none of them
serves twice, and the requests in it are those that were sent.
-/

namespace Entitlement

variable {α β : Type}

def Call.userId? : {α : Type} → Call α → Option String
  | _, .plans _ userId | _, .prices _ _ userId | _, .catalog _ userId => userId
  | _, .price _ | _, .signedUrl .. | _, .signedUrls .. => none
  | _, .subscription userId | _, .changeSubscription userId .. | _, .portalUrl userId
  | _, .limits userId | _, .usages userId | _, .redeemCode userId _ | _, .redemptionCodes userId
  | _, .earnings userId | _, .cashOut userId _ => some userId

def Call.isSingle : {α : Type} → Call α → Bool
  | _, .catalog .. => false
  | _, _ => true

-- The ledger

/-- An attempt to send a request, with the number of the answer that was obtained for it. -/
structure Attempt where
  answer : Option Nat
  sent : Except Failure Request

namespace Attempt

def answers (attempts : List Attempt) : List Nat := attempts.flatMap (·.answer.toList)

def requests (attempts : List Attempt) : List Request :=
  attempts.flatMap (·.sent.toOption.toList)

/-- An attempt for a user sends a request with the answer that was obtained for it, behind what the
base has of its own; if the answer is a failure or no header, it sends nothing. -/
structure JustInTime (base : Url) (provider : Provider) (isForUser : Bool) (attempt : Attempt) :
    Prop where
  asked : attempt.answer.isSome = isForUser
  authorized : ∀ answer request, attempt.answer = some answer → attempt.sent = .ok request →
    ∃ header, provider answer = .ok header ∧ isHeaderValue header = true ∧
      request.authorizations = base.ownAuthorizations ++ [header]
  anonymous : ∀ request, attempt.answer = none → attempt.sent = .ok request →
    request.authorizations = base.ownAuthorizations
  refused : ∀ answer failure, attempt.answer = some answer → provider answer = .error failure →
    attempt.sent = .error failure
  illegal : ∀ answer header, attempt.answer = some answer → provider answer = .ok header →
    isHeaderValue header = false → attempt.sent = .error (.transport .unbuildable)

end Attempt

def Endpoint.attempt (endpoint : Endpoint α) (client : Client) (provider : Provider)
    (asked : Nat) : Attempt :=
  if endpoint.isForUser then
    ⟨some asked, do client.request endpoint.ask (some (← provider asked))⟩
  else ⟨none, client.request endpoint.ask none⟩

/-- The attempts of a call. After one that failed there is no other. -/
def Shape.attempts (client : Client) (provider : Provider) (asked : Nat) :
    Shape α → List Attempt
  | .single endpoint => [endpoint.attempt client provider asked]
  | .joined first second _ =>
      let one := first.attempt client provider asked
      match one.sent with
      | .error _ => [one]
      | .ok _ =>
          [one, second.attempt client provider (asked + (Attempt.answers [one]).length)]

def Call.attempts (call : Call α) (client : Client) (provider : Provider) (asked : Nat) :
    List Attempt :=
  (call.shape client.platform).attempts client provider asked

def runAttempts (client : Client) (provider : Provider) : List Occasion → Nat → List Attempt
  | [], _ => []
  | occasion :: rest, asked =>
      let made := occasion.call.attempts client provider asked
      made ++ runAttempts client provider rest (asked + (Attempt.answers made).length)

def Log.with (log : Log) (attempts : List Attempt) : Log :=
  ⟨log.asked + (Attempt.answers attempts).length, log.sent ++ Attempt.requests attempts⟩

@[simp]
theorem Log.with_asked (log : Log) (attempts : List Attempt) :
    (log.with attempts).asked = log.asked + (Attempt.answers attempts).length :=
  rfl

theorem answers_append (before after : List Attempt) :
    Attempt.answers (before ++ after) = Attempt.answers before ++ Attempt.answers after :=
  List.flatMap_append

theorem with_with (log : Log) (before after : List Attempt) :
    (log.with before).with after = log.with (before ++ after) := by
  simp [Log.with, Attempt.answers, Attempt.requests, Nat.add_assoc]

-- Requests

theorem built_error (value : Option α) (failure : Failure)
    (failed : Client.built value = .error failure) : failure = .transport .unbuildable := by
  cases value with
  | none => exact (Except.error.inj failed).symm
  | some held => cases failed

theorem ensure_error (condition : Bool) (failure : Failure)
    (failed : Client.ensure condition = .error failure) : failure = .transport .unbuildable := by
  cases condition with
  | false => exact (Except.error.inj failed).symm
  | true => cases failed

theorem urlOf_error (client : Client) (ask : Ask) (failure : Failure)
    (failed : client.urlOf ask = .error failure) : failure = .transport .unbuildable := by
  rcases bind_error _ _ _ failed with unread | ⟨_, _, failed⟩
  · exact built_error _ _ unread
  · rcases bind_error _ _ _ failed with uncarried | ⟨_, _, failed⟩
    · exact ensure_error _ _ uncarried
    · cases failed

theorem request_error (client : Client) (ask : Ask) (header : Option String) (failure : Failure)
    (failed : client.request ask header = .error failure) : failure = .transport .unbuildable := by
  rcases bind_error _ _ _ failed with unread | ⟨_, _, failed⟩
  · exact urlOf_error client ask failure unread
  · rcases bind_error _ _ _ failed with illegal | ⟨_, _, failed⟩
    · exact ensure_error _ _ illegal
    · rcases bind_error _ _ _ failed with tooLong | ⟨_, _, failed⟩
      · exact ensure_error _ _ tooLong
      · cases failed

theorem request_legal (client : Client) (ask : Ask) (header : Option String) (request : Request)
    (built : client.request ask header = .ok request) : header.all isHeaderValue = true := by
  obtain ⟨_, _, built⟩ := (bind_ok _ _ _).mp built
  obtain ⟨_, legal, _⟩ := (bind_ok _ _ _).mp built
  cases held : header.all isHeaderValue with
  | true => rfl
  | false =>
      rw [held] at legal
      cases legal

theorem request_illegal (client : Client) (ask : Ask) (header : String)
    (illegal : isHeaderValue header = false) :
    client.request ask (some header) = .error (.transport .unbuildable) := by
  cases outcome : client.request ask (some header) with
  | error failure => rw [request_error client ask _ failure outcome]
  | ok request =>
      have legal := request_legal client ask _ request outcome
      rw [Option.all_some, illegal] at legal
      cases legal

-- An attempt

theorem start_attempt (endpoint : Endpoint α) (client : Client) (provider : Provider)
    (network : Network) (log : Log) :
    endpoint.start client provider network log =
      ((endpoint.attempt client provider log.asked).sent.map (endpoint.pending network),
        log.with [endpoint.attempt client provider log.asked]) := by
  have prepared : endpoint.prepare client provider log =
      ((endpoint.attempt client provider log.asked).sent,
        { log with asked := log.asked +
          (endpoint.attempt client provider log.asked).answer.toList.length }) := by
    rw [Endpoint.prepare, Endpoint.attempt]
    cases endpoint.isForUser <;> rfl
  rw [Endpoint.start, prepared]
  rcases endpoint.attempt client provider log.asked with ⟨answer, sent⟩
  cases sent <;> simp [Log.with, Attempt.answers, Attempt.requests, Except.map, Except.toOption]

theorem attempt_numbered (endpoint : Endpoint α) (client : Client) (provider : Provider)
    (asked : Nat) :
    let made := [endpoint.attempt client provider asked]
    Attempt.answers made = List.range' asked (Attempt.answers made).length := by
  dsimp only
  rw [Endpoint.attempt]
  cases endpoint.isForUser <;> rfl

-- A call

def Shape.IsForUser (isForUser : Bool) : Shape α → Prop
  | .single endpoint => endpoint.isForUser = isForUser
  | .joined first second _ => first.isForUser = isForUser ∧ second.isForUser = isForUser

theorem shape_isForUser (call : Call α) (platform : Platform) :
    (call.shape platform).IsForUser call.userId?.isSome := by
  cases call
  case catalog => exact ⟨rfl, rfl⟩
  all_goals rfl

theorem numbered_append (asked : Nat) (before after : List Attempt)
    (ofBefore : Attempt.answers before = List.range' asked (Attempt.answers before).length)
    (ofAfter : Attempt.answers after =
      List.range' (asked + (Attempt.answers before).length) (Attempt.answers after).length) :
    Attempt.answers (before ++ after) =
      List.range' asked (Attempt.answers (before ++ after)).length := by
  rw [answers_append, List.length_append, ← List.range'_append_1, ← ofBefore, ← ofAfter]

theorem shape_numbered (client : Client) (provider : Provider) (asked : Nat) (shape : Shape α) :
    let made := shape.attempts client provider asked
    Attempt.answers made = List.range' asked (Attempt.answers made).length := by
  cases shape with
  | single endpoint => exact attempt_numbered endpoint client provider asked
  | joined first second combine =>
      have one := attempt_numbered first client provider asked
      rw [Shape.attempts]
      split
      · exact one
      · exact numbered_append asked [_] [_] one (attempt_numbered second client provider _)

theorem startShape_log (client : Client) (provider : Provider) (network : Network)
    (shape : Shape α) (log : Log) :
    (Call.startShape client provider network shape log).2 =
      log.with (shape.attempts client provider log.asked) := by
  cases shape with
  | single endpoint => rw [Call.startShape, start_attempt, Shape.attempts]
  | joined first second combine =>
      rw [Call.startShape, Shape.attempts, Pending.startBoth, start_attempt]
      cases sent : (first.attempt client provider log.asked).sent with
      | error failure => rfl
      | ok request =>
          dsimp only [Except.map]
          rw [start_attempt, with_with]
          cases (second.attempt client provider
            (log.with [first.attempt client provider log.asked]).asked).sent <;> rfl

theorem run_log (call : Call α) (client : Client) (provider : Provider) (network : Network)
    (log : Log) : (call.run client provider network log).2 =
      log.with (call.attempts client provider log.asked) :=
  startShape_log client provider network (call.shape client.platform) log

theorem startShape_failed (client : Client) (provider : Provider) (network : Network)
    (shape : Shape α) (log : Log) (attempt : Attempt)
    (attempted : attempt ∈ shape.attempts client provider log.asked) (failure : Failure)
    (failed : attempt.sent = .error failure) :
    (Call.startShape client provider network shape log).1 = .error failure := by
  cases shape with
  | single endpoint =>
      obtain rfl := List.mem_singleton.mp attempted
      rw [Call.startShape, start_attempt, failed]
      rfl
  | joined first second combine =>
      rw [Shape.attempts] at attempted
      rw [Call.startShape, Pending.startBoth, start_attempt]
      split at attempted
      · next other stopped =>
          obtain rfl := List.mem_singleton.mp attempted
          rw [failed]
          rfl
      · next request sent =>
          rw [sent]
          dsimp only [Except.map]
          rw [start_attempt]
          rcases List.mem_pair.mp attempted with rfl | rfl
          · rw [sent] at failed
            cases failed
          · rw [Log.with_asked, failed]
            rfl

/-- What a call obtains and sends, when it starts with a log. It ends with the failure of an
attempt, and without a user it asks for nothing. -/
structure Call.JustInTime (base : Url) (client : Client) (provider : Provider)
    (network : Network) (log : Log) (call : Call α) : Prop where
  logged : (call.run client provider network log).2 =
    log.with (call.attempts client provider log.asked)
  each : ∀ attempt ∈ call.attempts client provider log.asked,
    attempt.JustInTime base provider call.userId?.isSome
  failed : ∀ attempt ∈ call.attempts client provider log.asked, ∀ failure,
    attempt.sent = .error failure → (call.run client provider network log).1 = .fail failure
  single : call.isSingle = true → ∃ sent, call.attempts client provider log.asked =
    [⟨if call.userId?.isSome then some log.asked else none, sent⟩]
  silent : call.userId? = none → (call.run client provider network log).2.asked = log.asked

theorem single_attempts (call : Call α) (client : Client) (provider : Provider) (asked : Nat)
    (single : call.isSingle = true) :
    ∃ sent, call.attempts client provider asked =
      [⟨if call.userId?.isSome then some asked else none, sent⟩] := by
  cases call
  case catalog => cases single
  case plans includeLegacy userId => cases userId <;> exact ⟨_, rfl⟩
  case prices planIds includeLegacy userId => cases userId <;> exact ⟨_, rfl⟩
  all_goals exact ⟨_, rfl⟩

theorem answers_silent (attempts : List Attempt)
    (silent : ∀ attempt ∈ attempts, attempt.answer = none) : Attempt.answers attempts = [] := by
  rw [Attempt.answers, List.flatMap_eq_nil_iff]
  intro attempt present
  rw [silent attempt present]
  rfl

-- A run

theorem after_log (client : Client) (provider : Provider) (occasions : List Occasion) (log : Log) :
    Log.after client provider occasions log =
      log.with (runAttempts client provider occasions log.asked) := by
  induction occasions generalizing log with
  | nil => exact congrArg (Log.mk log.asked) (List.append_nil log.sent).symm
  | cons occasion rest ih =>
      rw [Log.after, run_log, ih, with_with]
      rfl

theorem run_numbered (client : Client) (provider : Provider) (occasions : List Occasion)
    (asked : Nat) :
    let made := runAttempts client provider occasions asked
    Attempt.answers made = List.range' asked (Attempt.answers made).length := by
  induction occasions generalizing asked with
  | nil => rfl
  | cons occasion rest ih =>
      exact numbered_append asked _ _
        (shape_numbered client provider asked (occasion.call.shape client.platform)) (ih _)

theorem run_each (client : Client) (provider : Provider) (law : Attempt → Prop)
    (occasions : List Occasion)
    (each : ∀ occasion ∈ occasions, ∀ asked,
      ∀ attempt ∈ occasion.call.attempts client provider asked, law attempt) (asked : Nat) :
    ∀ attempt ∈ runAttempts client provider occasions asked, law attempt := by
  induction occasions generalizing asked with
  | nil => exact fun attempt present => absurd present List.not_mem_nil
  | cons occasion rest ih =>
      obtain ⟨ofFirst, ofRest⟩ := List.forall_mem_cons.mp each
      intro attempt present
      rcases List.mem_append.mp present with inFirst | inRest
      · exact ofFirst asked attempt inFirst
      · exact ih ofRest _ attempt inRest

def authenticated (occasions : List Occasion) : Nat :=
  occasions.countP (·.call.userId?.isSome)

theorem singles_asked (client : Client) (provider : Provider) (occasions : List Occasion)
    (singles : ∀ occasion ∈ occasions, occasion.call.isSingle = true) (asked : Nat) :
    (Attempt.answers (runAttempts client provider occasions asked)).length =
      authenticated occasions := by
  induction occasions generalizing asked with
  | nil => rfl
  | cons occasion rest ih =>
      obtain ⟨single, singles⟩ := List.forall_mem_cons.mp singles
      obtain ⟨sent, attempts⟩ := single_attempts occasion.call client provider asked single
      rw [runAttempts, answers_append, List.length_append, ih singles, attempts, authenticated,
        authenticated, List.countP_cons, Nat.add_comm]
      cases occasion.call.userId?.isSome <;> rfl

/-- Authorization while calls run one after the other: each answer is obtained once, in the order in
which the calls are made. -/
structure JustInTime (base : Url) (client : Client) (provider : Provider) (log : Log)
    (occasions : List Occasion) : Prop where
  logged : Log.after client provider occasions log =
    log.with (runAttempts client provider occasions log.asked)
  numbered : let made := runAttempts client provider occasions log.asked
    Attempt.answers made = List.range' log.asked (Attempt.answers made).length
  once : (Attempt.answers (runAttempts client provider occasions log.asked)).Nodup
  each : ∀ attempt ∈ runAttempts client provider occasions log.asked,
    attempt.JustInTime base provider attempt.answer.isSome
  calls : ∀ before occasion rest, occasions = before ++ occasion :: rest →
    occasion.call.JustInTime base client provider occasion.network
      (Log.after client provider before log)
  inOrder : (∀ occasion ∈ occasions, occasion.call.isSingle = true) →
    ∀ before occasion rest, occasions = before ++ occasion :: rest →
      occasion.call.userId?.isSome = true → ∃ sent,
        occasion.call.attempts client provider (Log.after client provider before log).asked =
          [⟨some (log.asked + authenticated before), sent⟩]
  bare : base.authority.any Authority.hasUserInfo = false → base.ownAuthorizations = []

-- A client that is made for a base

section Made

variable {settings : ClientSettings} {client : Client} {base : Url}
  (readBase : Url.read settings.baseUrl = .ok base)
  (made : Client.ofSettings settings = .ok client)

include readBase made

theorem urlOf_own (ask : Ask) (url : Url) (found : client.urlOf ask = .ok url) :
    url.ownAuthorizations = base.ownAuthorizations := by
  obtain ⟨address, isAddress, found⟩ := (bind_ok _ _ _).mp found
  obtain ⟨_, isCarried, same⟩ := (bind_ok _ _ _).mp found
  cases same
  have readAddress : Url.read (client.address ask.path) = .ok address := by
    cases outcome : Url.read (client.address ask.path) with
    | error fault => rw [outcome] at isAddress; cases isAddress
    | ok held => rw [outcome] at isAddress; cases isAddress; rfl
  have carried : Client.carriedSchemes.contains address.scheme = true := by
    rw [Client.ensure] at isCarried
    split at isCarried
    · next both => exact (Bool.and_eq_true_iff.mp both).2
    · cases isCarried
  exact Client.address_own settings client made base readBase ask.path address readAddress carried

theorem request_own (ask : Ask) (header : Option String) (request : Request)
    (built : client.request ask header = .ok request) :
    request.authorizations = base.ownAuthorizations ++ header.toList := by
  obtain ⟨url, found, built⟩ := (bind_ok _ _ _).mp built
  obtain ⟨_, _, built⟩ := (bind_ok _ _ _).mp built
  obtain ⟨_, _, same⟩ := (bind_ok _ _ _).mp built
  cases same
  rw [← urlOf_own readBase made ask url found]
  rfl

theorem attempt_justInTime (endpoint : Endpoint α) (provider : Provider) (asked : Nat) :
    (endpoint.attempt client provider asked).JustInTime base provider endpoint.isForUser := by
  have own := request_own readBase made endpoint.ask
  rw [Endpoint.attempt]
  cases endpoint.isForUser with
  | false =>
      exact {
        asked := rfl
        authorized := fun _ _ answered => nomatch answered
        anonymous := fun request _ sent => by
          rw [own none request sent, Option.toList_none, List.append_nil]
        refused := fun _ _ answered => nomatch answered
        illegal := fun _ _ answered => nomatch answered }
  | true =>
      rw [if_pos rfl]
      constructor
      case asked => rfl
      case authorized =>
        rintro answer request ⟨⟩ sent
        obtain ⟨header, provided, built⟩ := (bind_ok _ _ _).mp sent
        have legal := request_legal client endpoint.ask (some header) request built
        exact ⟨header, provided, legal, own (some header) request built⟩
      case anonymous => exact fun _ answered => nomatch answered
      case refused =>
        rintro answer failure ⟨⟩ refused
        dsimp only
        rw [refused]
        rfl
      case illegal =>
        rintro answer header ⟨⟩ provided illegal
        dsimp only
        rw [provided]
        exact request_illegal client endpoint.ask header illegal

theorem shape_justInTime (provider : Provider) (asked : Nat) (shape : Shape α) (isForUser : Bool)
    (same : shape.IsForUser isForUser) :
    ∀ attempt ∈ shape.attempts client provider asked,
      attempt.JustInTime base provider isForUser := by
  have law {γ : Type} (endpoint : Endpoint γ) (asked : Nat) :=
    attempt_justInTime readBase made endpoint provider asked
  cases shape with
  | single endpoint =>
      obtain rfl := same
      rw [Shape.attempts]
      simpa using law endpoint asked
  | joined first second combine =>
      obtain ⟨rfl, sameSecond⟩ := same
      rw [Shape.attempts]
      split
      · simpa using law first asked
      · rw [List.forall_mem_cons, List.forall_mem_singleton]
        exact ⟨law first asked, sameSecond ▸ law second _⟩

theorem call_justInTime (provider : Provider) (network : Network) (log : Log) (call : Call α) :
    call.JustInTime base client provider network log := by
  have logged := run_log call client provider network log
  have each := shape_justInTime readBase made provider log.asked
    (call.shape client.platform) _ (shape_isForUser call client.platform)
  refine ⟨logged, each, ?failed, single_attempts call client provider log.asked, ?silent⟩
  case failed =>
    intro attempt attempted failure stopped
    have started := startShape_failed client provider network (call.shape client.platform) log
      attempt attempted failure stopped
    rw [Call.run, Call.start, started]
    rfl
  case silent =>
    intro unnamed
    have unanswered : ∀ attempt ∈ call.attempts client provider log.asked,
        attempt.answer = none := by
      intro attempt present
      have asked := (each attempt present).asked
      rw [unnamed] at asked
      exact Option.isNone_iff_eq_none.mp (Option.isSome_eq_false_iff.mp asked)
    rw [logged, Log.with_asked, answers_silent _ unanswered]
    rfl

end Made

/-- Whatever calls are made, and whatever a provider answers: it is asked for every request of a
user when the request is made, and its answer goes with that request and with no other. -/
theorem authorization_just_in_time (settings : ClientSettings) (client : Client) (base : Url)
    (readBase : Url.read settings.baseUrl = .ok base)
    (made : Client.ofSettings settings = .ok client) (provider : Provider) (log : Log)
    (occasions : List Occasion) : JustInTime base client provider log occasions := by
  have numbered := run_numbered client provider occasions log.asked
  refine ⟨after_log client provider occasions log, numbered, ?once, ?each, ?calls, ?inOrder,
    own_without_user base⟩
  case once =>
    rw [numbered]
    exact List.nodup_range' _
  case each =>
    refine run_each client provider _ occasions (fun occasion _ asked attempt present => ?_) _
    have law := shape_justInTime readBase made provider asked
      (occasion.call.shape client.platform) _ (shape_isForUser occasion.call client.platform)
      attempt present
    rw [law.asked]
    exact law
  case calls =>
    intro before occasion rest _
    exact call_justInTime readBase made provider occasion.network _ occasion.call
  case inOrder =>
    rintro singles before occasion rest rfl isForUser
    obtain ⟨singlesBefore, singles⟩ := List.forall_mem_append.mp singles
    have single := singles occasion List.mem_cons_self
    rw [after_log, Log.with_asked, singles_asked client provider before singlesBefore]
    obtain ⟨sent, attempts⟩ := single_attempts occasion.call client provider
      (log.asked + authenticated before) single
    rw [if_pos isForUser] at attempts
    exact ⟨sent, attempts⟩

/-- A provider whose second answer is a failure and whose third is no header. -/
def fickle : Provider
  | 0 => .ok "Bearer first"
  | 1 => .error (.authorization "expired")
  | 2 => .ok "Bearer\nthird"
  | _ => .ok "Bearer later"

def unreached : Network := ⟨fun _ => .unreachable, fun _ => 0⟩

def fickleRun : List Occasion :=
  [⟨.price "pro", unreached⟩, ⟨.usages "ada", unreached⟩, ⟨.limits "ada", unreached⟩,
    ⟨.earnings "ada", unreached⟩, ⟨.catalog true (some "ada"), unreached⟩]

def localBase : Url :=
  ⟨"http".toList, some ⟨[], [], some (.ipv6 [0, 0, 0, 0, 0, 0, 0, 1]), none⟩, .rooted [[]], none,
    none⟩

def localClient : Client := ⟨"http://[::1]", .desktop⟩

theorem fickle_run_just_in_time :
    JustInTime localBase localClient fickle .start fickleRun ∧
    (runAttempts localClient fickle fickleRun 0).map Attempt.answer =
      [none, some 0, some 1, some 2, some 3, some 4] ∧
    (Log.after localClient fickle fickleRun .start).sent.map Request.authorizations =
      [[], ["Bearer first"], ["Bearer later"], ["Bearer later"]] :=
  ⟨authorization_just_in_time (.ofBaseUrl "http://[::1]") localClient localBase rfl rfl fickle
    .start fickleRun, rfl, rfl⟩

end Entitlement
