import Entitlement.Proofs.Authorization
import Entitlement.Proofs.ErrorBody
import Entitlement.Proofs.Utf8

/-!
How the calls read replies. The status decides between success and failure and which failure it is,
the body decides what the failure tells. Of a success a call takes a record, nothing at all, or what
it finds in the JSON.
-/

namespace Entitlement

open Json Record

variable {α : Type}

/-- The failure that a status stands for if it is no success. -/
inductive StandsFor (message : String) : Nat → Failure → Prop where
  | unauthorized : StandsFor message 401 (.unauthorized message)
  | forbidden : StandsFor message 403 (.forbidden message)
  | notFound : StandsFor message 404 (.notFound message)
  | validation : StandsFor message 400 (.validation message)
  | other {status : Nat} (unlisted : status ∉ [400, 401, 403, 404]) :
      StandsFor message status (.status status message)

theorem ofStatus_stands (status : Nat) (message : String) :
    StandsFor message status (.ofStatus status message) := by
  rw [Failure.ofStatus]
  split
  · next is => exact is ▸ .unauthorized
  split
  · next is => exact is ▸ .forbidden
  split
  · next is => exact is ▸ .notFound
  split
  · next is => exact is ▸ .validation
  · exact .other (by simp_all)

/-- A status stands for one failure. -/
theorem standsFor_iff (status : Nat) (message : String) (failure : Failure) :
    StandsFor message status failure ↔ failure = .ofStatus status message := by
  constructor
  · intro stands
    cases stands with
    | unauthorized => rfl
    | forbidden => rfl
    | notFound => rfl
    | validation => rfl
    | other unlisted =>
        simp only [List.mem_cons, List.not_mem_nil, or_false, not_or] at unlisted
        obtain ⟨not400, not401, not403, not404⟩ := unlisted
        rw [Failure.ofStatus, if_neg not401, if_neg not403, if_neg not404, if_neg not400]
  · rintro rfl
    exact ofStatus_stands status message

theorem standsFor_notFound {message : String} {status : Nat} {failure : Failure}
    (stands : StandsFor message status failure) : failure.isNotFound = true ↔ status = 404 := by
  cases stands with
  | unauthorized => exact ⟨nofun, nofun⟩
  | forbidden => exact ⟨nofun, nofun⟩
  | notFound => exact ⟨fun _ => rfl, fun _ => rfl⟩
  | validation => exact ⟨nofun, nofun⟩
  | other unlisted => exact ⟨nofun, by rintro rfl; exact absurd (by decide) unlisted⟩

def messageOf (body : List UInt8) : String := Explanation.ofText (Text.repair body)

namespace Reply

theorem isSuccess_iff (reply : Reply) :
    reply.isSuccess = true ↔ 200 ≤ reply.status ∧ reply.status ≤ 299 := by
  simp [isSuccess]

theorem accept_success (reply : Reply) (succeeds : reply.isSuccess = true) :
    reply.accept = .ok () :=
  if_pos succeeds

theorem accept_refused (reply : Reply) (fails : ¬ reply.isSuccess = true)
    (complete : reply.isComplete = true) :
    reply.accept = .error (.ofStatus reply.status (messageOf reply.body)) := by
  rw [accept, if_neg fails, explained, content, if_pos complete]
  rfl

theorem accept_cutShort (reply : Reply) (fails : ¬ reply.isSuccess = true)
    (cut : ¬ reply.isComplete = true) : reply.accept = .error (.transport .cutShort) := by
  rw [accept, if_neg fails, explained, content, if_neg cut]
  rfl

theorem accept_ok (reply : Reply) : reply.accept = .ok () ↔ reply.isSuccess = true := by
  by_cases succeeds : reply.isSuccess = true
  · simp [accept_success reply succeeds, succeeds]
  · by_cases complete : reply.isComplete = true
    · simp [accept_refused reply succeeds complete, succeeds]
    · simp [accept_cutShort reply succeeds complete, succeeds]

theorem content_ok (reply : Reply) (body : List UInt8) :
    reply.content = .ok body ↔ reply.isComplete = true ∧ reply.body = body := by
  rw [content]
  cases reply.isComplete <;> simp

theorem content_error (reply : Reply) (failure : Failure)
    (failed : reply.content = .error failure) : failure = .transport .cutShort := by
  rw [content] at failed
  split at failed
  · cases failed
  · exact (Except.error.inj failed).symm

theorem readable_ok (outcome : Except Fault α) (value : α) :
    readable outcome = .ok value ↔ outcome = .ok value := by
  cases outcome <;> simp [readable]

theorem readable_error (outcome : Except Fault α) (fault : Fault) :
    readable outcome = .error (.unreadable fault) ↔ outcome = .error fault := by
  cases outcome <;> simp [readable]

theorem readable_known (outcome : Except Fault α) (failure : Failure)
    (failed : readable outcome = .error failure) : failure.isNotFound = false := by
  cases outcome with
  | ok value => cases failed
  | error fault =>
      cases failed
      rfl

theorem record_complete (reply : Reply) (codec : Codec α) (succeeds : reply.isSuccess = true)
    (complete : reply.isComplete = true) :
    reply.record codec = readable (codec.ofBytes reply.body) := by
  rw [record, success, accept_success reply succeeds, content, if_pos complete]
  rfl

theorem record_ok (reply : Reply) (codec : Codec α) (value : α) :
    reply.record codec = .ok value ↔ 200 ≤ reply.status ∧ reply.status ≤ 299 ∧
      reply.isComplete = true ∧ codec.ofBytes reply.body = .ok value := by
  constructor
  · intro read
    obtain ⟨body, succeeded, read⟩ := (bind_ok _ _ _).mp read
    obtain ⟨_, accepted, arrived⟩ := (bind_ok _ _ _).mp succeeded
    obtain ⟨least, greatest⟩ := reply.isSuccess_iff.mp (reply.accept_ok.mp accepted)
    obtain ⟨complete, rfl⟩ := (reply.content_ok body).mp arrived
    exact ⟨least, greatest, complete, (readable_ok _ value).mp read⟩
  · rintro ⟨least, greatest, complete, read⟩
    rw [reply.record_complete codec (reply.isSuccess_iff.mpr ⟨least, greatest⟩) complete, read]
    rfl

theorem success_known (reply : Reply) (accepted : reply.accept = .ok ()) (failure : Failure)
    (failed : reply.success = .error failure) : failure.isNotFound = false := by
  rw [success, accepted] at failed
  rw [reply.content_error failure failed]
  rfl

end Reply

-- Endpoints

/-- An endpoint that has no result for a reply that is no success, and never takes a success for
something that was not found. -/
structure Endpoint.Guarded (endpoint : Endpoint α) : Prop where
  refuses : ∀ reply failure, reply.accept = .error failure →
    (endpoint.read reply).result = .error failure
  known : ∀ reply failure, reply.accept = .ok () → (endpoint.read reply).result = .error failure →
    failure.isNotFound = false

namespace Endpoint

theorem ofRecord_guarded (ask : Ask) (isForUser : Bool) (codec : Codec α) :
    (ofRecord ask isForUser codec).Guarded where
  refuses reply failure refused := by
    show reply.record codec = _
    rw [Reply.record, Reply.success, refused]
    rfl
  known reply failure accepted failed := by
    rcases bind_error _ _ _ failed with lost | ⟨body, _, failed⟩
    · exact reply.success_known accepted failure lost
    · exact Reply.readable_known _ failure failed

theorem ofStatus_guarded (ask : Ask) (isForUser : Bool) : (ofStatus ask isForUser).Guarded where
  refuses reply failure refused := refused
  known reply failure accepted failed := by
    have failed : reply.accept = .error failure := failed
    rw [accepted] at failed
    cases failed

theorem ofTree_guarded (ask : Ask) (isForUser : Bool) (look : Tree → Outcome α)
    (knows : ∀ tree failure, (look tree).result = .error failure → failure.isNotFound = false) :
    (ofTree ask isForUser look).Guarded where
  refuses reply failure refused := by
    have failed : reply.tree = .error failure := by
      rw [Reply.tree, Reply.success, refused]
      rfl
    show ((Outcome.quiet reply.tree).andThen look).result = _
    rw [failed]
    rfl
  known reply failure accepted failed := by
    have failed : ((Outcome.quiet reply.tree).andThen look).result = .error failure := failed
    cases found : reply.tree with
    | ok tree =>
        rw [found] at failed
        exact knows tree failure failed
    | error other =>
        rw [found] at failed
        cases failed
        rcases bind_error _ _ _ found with lost | ⟨body, _, found⟩
        · exact reply.success_known accepted failure lost
        · exact Reply.readable_known _ failure found

end Endpoint

theorem earningsOf_known (tree : Tree) (failure : Failure)
    (failed : (Reply.earningsOf tree).result = .error failure) : failure.isNotFound = false := by
  unfold Reply.earningsOf at failed
  split at failed
  · exact Reply.readable_known _ failure failed
  all_goals
    cases failed
    rfl

theorem portalUrlOf_known (tree : Tree) (failure : Failure)
    (failed : (Reply.portalUrlOf tree).result = .error failure) : failure.isNotFound = false := by
  rw [Reply.portalUrlOf] at failed
  split at failed
  · cases failed
  · cases failed
    rfl

def Shape.Guarded : Shape α → Prop
  | .single endpoint => endpoint.Guarded
  | .joined first second _ => first.Guarded ∧ second.Guarded

def Call.isLookup : {α : Type} → Call α → Bool
  | _, .price _ => true
  | _, _ => false

theorem shape_guarded (call : Call α) (platform : Platform) (noLookup : call.isLookup = false) :
    (call.shape platform).Guarded := by
  cases call
  case price => cases noLookup
  case catalog => exact ⟨Endpoint.ofRecord_guarded .., Endpoint.ofRecord_guarded ..⟩
  case redeemCode => exact Endpoint.ofStatus_guarded ..
  case cashOut => exact Endpoint.ofStatus_guarded ..
  case earnings => exact Endpoint.ofTree_guarded _ _ _ earningsOf_known
  case portalUrl => exact Endpoint.ofTree_guarded _ _ _ portalUrlOf_known
  all_goals exact Endpoint.ofRecord_guarded ..

-- What calls take of a success

/-- The records that a call takes from a reply as they are. -/
def Call.codec? : {α : Type} → Call α → Option (Codec α)
  | _, .plans .. => some (.list Plan.codec)
  | _, .prices .. => some (.list Price.codec)
  | _, .subscription .. | _, .changeSubscription .. => some Subscription.codec
  | _, .limits _ => some Limits.codec
  | _, .usages _ => some (.list Usage.codec)
  | _, .redemptionCodes _ => some (.list RedemptionCode.codec)
  | _, .signedUrl .. => some signedUrlCodec
  | _, .signedUrls .. => some signedUrlsCodec
  | _, .price _ | _, .catalog .. | _, .portalUrl _ | _, .earnings _ | _, .redeemCode ..
  | _, .cashOut .. => none

def Call.ignoresBody : {α : Type} → Call α → Bool
  | _, .redeemCode .. | _, .cashOut .. => true
  | _, _ => false

theorem read_ignoring (call : Call α) (platform : Platform) (ignores : call.ignoresBody = true)
    (endpoint : Endpoint α) (single : call.shape platform = .single endpoint) (reply : Reply)
    (accepted : reply.accept = .ok ()) : ∃ value, (endpoint.read reply).result = .ok value := by
  cases call
  case redeemCode =>
    cases single
    exact ⟨(), accepted⟩
  case cashOut =>
    cases single
    exact ⟨(), accepted⟩
  all_goals cases ignores

theorem read_decoding (call : Call α) (platform : Platform) (codec : Codec α)
    (takes : call.codec? = some codec) (endpoint : Endpoint α)
    (single : call.shape platform = .single endpoint) (reply : Reply) :
    (endpoint.read reply).result = reply.record codec := by
  cases call <;> cases takes <;> cases single <;> rfl

-- A call that is answered

theorem run_single (call : Call α) (client : Client) (provider : Provider) (network : Network)
    (log : Log) (endpoint : Endpoint α) (single : call.shape client.platform = .single endpoint) :
    call.run client provider network log =
      (Pending.settle ((endpoint.attempt client provider log.asked).sent.map
          (endpoint.pending network)),
        log.with [endpoint.attempt client provider log.asked]) := by
  rw [Call.run, Call.start, single, Call.startShape, start_attempt]

theorem run_answered (call : Call α) (client : Client) (provider : Provider) (network : Network)
    (log : Log) (endpoint : Endpoint α) (single : call.shape client.platform = .single endpoint)
    (request : Request)
    (sent : (call.run client provider network log).2.sent = log.sent ++ [request]) :
    (call.run client provider network log).1 =
      (network.deliver request).outcome endpoint.read := by
  rw [run_single call client provider network log endpoint single] at sent ⊢
  have sent := List.append_cancel_left sent
  rw [Attempt.requests, List.flatMap_singleton] at sent
  cases made : (endpoint.attempt client provider log.asked).sent with
  | error failure =>
      rw [made] at sent
      cases sent
  | ok other =>
      rw [made] at sent
      cases sent
      rfl

/-- How a call reads a reply that arrived whole. -/
structure Call.Interprets (call : Call α) (reply : Reply) (result : Except Failure α) : Prop where
  successful : ∀ value, result = .ok value → 200 ≤ reply.status ∧ reply.status ≤ 299
  refused : ¬ (200 ≤ reply.status ∧ reply.status ≤ 299) → ∃ failure,
    StandsFor (messageOf reply.body) reply.status failure ∧ result = .error failure
  notFound : (∃ failure, result = .error failure ∧ failure.isNotFound = true) ↔ reply.status = 404
  explained : ∀ message, Explains (Text.repair reply.body) message ↔ message = messageOf reply.body
  unexplained : Unexplained (Text.repair reply.body) →
    messageOf reply.body = Text.repair reply.body
  intact : ∀ text, reply.body = Text.bytes text → Text.repair reply.body = text
  ignored : call.ignoresBody = true → 200 ≤ reply.status → reply.status ≤ 299 →
    ∃ value, result = .ok value
  decoded : ∀ codec, call.codec? = some codec → 200 ≤ reply.status → reply.status ≤ 299 →
    (∀ value, result = .ok value ↔ codec.ofBytes reply.body = .ok value) ∧
      ∀ fault, result = .error (.unreadable fault) ↔ codec.ofBytes reply.body = .error fault

theorem single_shape (call : Call α) (platform : Platform) (single : call.isSingle = true) :
    ∃ endpoint, call.shape platform = .single endpoint := by
  cases call
  case catalog => cases single
  all_goals exact ⟨_, rfl⟩

theorem Endpoint.Guarded.read_refused {endpoint : Endpoint α} (guarded : endpoint.Guarded)
    (reply : Reply) (fails : ¬ reply.isSuccess = true) (complete : reply.isComplete = true) :
    (endpoint.read reply).result =
      .error (.ofStatus reply.status (messageOf reply.body)) :=
  guarded.refuses reply _ (reply.accept_refused fails complete)

theorem Endpoint.Guarded.read_notFound {endpoint : Endpoint α} (guarded : endpoint.Guarded)
    (reply : Reply) :
    (∃ failure, (endpoint.read reply).result = .error failure ∧ failure.isNotFound = true) ↔
      reply.status = 404 ∧ reply.isComplete = true := by
  by_cases succeeds : reply.isSuccess = true
  · have inRange := reply.isSuccess_iff.mp succeeds
    constructor
    · rintro ⟨failure, failed, missing⟩
      rw [guarded.known reply failure (reply.accept_success succeeds) failed] at missing
      cases missing
    · rintro ⟨missing, _⟩
      omega
  · by_cases complete : reply.isComplete = true
    · rw [guarded.read_refused reply succeeds complete]
      have stands := standsFor_notFound (ofStatus_stands reply.status (messageOf reply.body))
      constructor
      · rintro ⟨failure, ⟨⟩, missing⟩
        exact ⟨stands.mp missing, complete⟩
      · rintro ⟨missing, _⟩
        exact ⟨_, rfl, stands.mpr missing⟩
    · rw [guarded.refuses reply _ (reply.accept_cutShort succeeds complete)]
      constructor
      · rintro ⟨failure, ⟨⟩, missing⟩
        cases missing
      · exact fun whole => absurd whole.2 complete

/-- Whatever is called and whatever the service answers: the status decides whether there is a
result, and with the body which failure there is instead. -/
theorem reply_interpreted (call : Call α) (client : Client) (provider : Provider)
    (network : Network) (log : Log) (request : Request) (reply : Reply)
    (isSingle : call.isSingle = true) (noLookup : call.isLookup = false)
    (sent : (call.run client provider network log).2.sent = log.sent ++ [request])
    (answered : network.deliver request = .answered reply) (complete : reply.isComplete = true) :
    call.Interprets reply (call.run client provider network log).1.result := by
  obtain ⟨endpoint, single⟩ := single_shape call client.platform isSingle
  have guarded := shape_guarded call client.platform noLookup
  rw [single] at guarded
  have guarded : endpoint.Guarded := guarded
  rw [run_answered call client provider network log endpoint single request sent, answered]
  constructor
  case successful =>
    intro value succeeded
    by_contra outside
    have fails := fun succeeds => outside (reply.isSuccess_iff.mp succeeds)
    cases (guarded.read_refused reply fails complete).symm.trans succeeded
  case refused =>
    intro outside
    exact ⟨_, ofStatus_stands _ _, guarded.read_refused reply
      (fun succeeds => outside (reply.isSuccess_iff.mp succeeds)) complete⟩
  case notFound => exact (guarded.read_notFound reply).trans (and_iff_left complete)
  case explained => exact Explanation.explains_iff _
  case unexplained => exact Explanation.ofText_unexplained _
  case intact =>
    rintro text same
    rw [same]
    exact (Text.repair_bytesOf text.toList).trans String.ofList_toList
  case ignored =>
    intro ignores least greatest
    exact read_ignoring call client.platform ignores endpoint single reply
      (reply.accept_success (reply.isSuccess_iff.mpr ⟨least, greatest⟩))
  case decoded =>
    intro codec takes least greatest
    have reads := read_decoding call client.platform codec takes endpoint single reply
    rw [reply.record_complete codec (reply.isSuccess_iff.mpr ⟨least, greatest⟩) complete] at reads
    show (∀ value, (endpoint.read reply).result = _ ↔ _) ∧
      ∀ fault, (endpoint.read reply).result = _ ↔ _
    rw [reads]
    exact ⟨Reply.readable_ok _, Reply.readable_error _⟩

def answering (reply : Reply) : Network := ⟨fun _ => .answered reply, fun _ => 0⟩

def answeredBy (reply : Reply) (call : Call α) : Outcome α × Log :=
  call.run localClient (BearerToken.provider ⟨"token"⟩) (answering reply) .start

def unknownUser : Reply :=
  ⟨404, Text.bytes "\x7b\"code\":\"USER_GONE\",\"message\":\"No such user\"\x7d", true⟩

def oneUsage : Reply :=
  ⟨200, Text.bytes "[\x7b\"id\":\"u1\",\"userId\":\"ada\",\"type\":\"build\",\"createdAt\":7\x7d]",
    true⟩

/-- A user that the service does not know, and one who has built a game. -/
theorem usages_interpreted :
    let refused := answeredBy unknownUser (.usages "ada")
    let listed := answeredBy oneUsage (.usages "ada")
    refused.2.sent.length = 1 ∧ listed.2.sent.length = 1 ∧
      (Call.usages "ada").Interprets unknownUser refused.1.result ∧
      (Call.usages "ada").Interprets oneUsage listed.1.result ∧
      refused.1.result = .error (.notFound "USER_GONE: No such user") ∧
      listed.1.result = .ok [⟨"u1", "ada", "build", 7⟩] := by
  intro refused listed
  have onceRefused : refused.2.sent.length = 1 := by decide +kernel
  have onceListed : listed.2.sent.length = 1 := by decide +kernel
  have interprets (reply : Reply) (complete : reply.isComplete = true)
      (once : (answeredBy reply (.usages "ada")).2.sent.length = 1) :
      (Call.usages "ada").Interprets reply (answeredBy reply (.usages "ada")).1.result := by
    obtain ⟨request, sent⟩ := List.length_eq_one_iff.mp once
    exact reply_interpreted (.usages "ada") localClient (BearerToken.provider ⟨"token"⟩)
      (answering reply) .start request reply rfl rfl sent rfl complete
  have ofRefused := interprets unknownUser rfl onceRefused
  have ofListed := interprets oneUsage rfl onceListed
  refine ⟨onceRefused, onceListed, ofRefused, ofListed, ?_, ?_⟩
  · have tells : messageOf unknownUser.body = "USER_GONE: No such user" := by decide +kernel
    obtain ⟨failure, stands, failed⟩ := ofRefused.refused (by decide)
    rw [tells, standsFor_iff] at stands
    refine failed.trans ?_
    rw [stands]
    rfl
  · have decoded : (Codec.list Usage.codec).ofBytes oneUsage.body =
        .ok [⟨"u1", "ada", "build", 7⟩] := by decide +kernel
    exact ((ofListed.decoded _ rfl (by decide) (by decide)).1 _).mpr decoded

end Entitlement
