import Entitlement.Proofs.Completion
import Entitlement.Proofs.Interpretation
import Entitlement.Proofs.JsonText

/-!
Absence. The service says of a price that it does not know it, and only the lookup of a price takes
this for an answer. For every other call, and for every other failure of the lookup, it is a
failure.
-/

namespace Entitlement

open Json Record

variable {α β : Type}

/-- The request of a lookup, made for a price like any other record. -/
def Endpoint.plainPrice (priceId : String) : Endpoint Price :=
  .ofRecord (.get ("/subscription-plan-pricing-system/" ++ priceId) []) false Price.codec

/-- A body of blanks, with null among them at most. -/
def IsNothing (body : List UInt8) : Prop :=
  ∃ before word after, (∀ c ∈ before ++ after, isBlank c = true) ∧
    (word = [] ∨ word = "null".toList) ∧ body = Text.bytesOf (before ++ word ++ after)

/-- How a lookup and the plain request end, by what becomes of the request. -/
structure Delivery.Settles (delivery : Delivery) (found : Except Failure (Option Price))
    (plain : Except Failure Price) : Prop where
  absent : found = .ok none ↔
    ∃ reply, delivery = .answered reply ∧ reply.status = 404 ∧ reply.isComplete = true
  present : ∀ price, found = .ok (some price) ↔
    ∃ reply, delivery = .answered reply ∧ 200 ≤ reply.status ∧ reply.status ≤ 299 ∧
      reply.isComplete = true ∧ Price.codec.ofBytes reply.body = .ok price
  failed : ∀ failure, found = .error failure ↔
    plain = .error failure ∧ failure.isNotFound = false
  nothing : ∀ reply, delivery = .answered reply → 200 ≤ reply.status → reply.status ≤ 299 →
    IsNothing reply.body → ∃ failure, found = .error failure ∧ plain = .error failure

-- Bodies of nothing

theorem nothing_unread (body : List UInt8) (nothing : IsNothing body) :
    ∃ fault, Price.codec.ofBytes body = .error fault := by
  obtain ⟨before, word, after, blank, isWord, rfl⟩ := nothing
  obtain ⟨blankBefore, blankAfter⟩ := List.forall_mem_append.mp blank
  have skipped := skipBlank_blanks before blankBefore
  have ended := skipBlank_blanks after blankAfter []
  rw [List.append_nil] at ended
  rw [Codec.ofBytes, Text.pieces_bytesOf, Codec.ofPieces, Document.read, List.append_assoc,
    List.map_append, Document.readValue, skipped]
  rcases isWord with rfl | rfl
  · rw [List.nil_append, ended]
    exact ⟨_, rfl⟩
  · exact ⟨_, rfl⟩

-- A lookup

/-- A lookup takes a price that was not found for an answer, and nothing else. -/
structure Absorbs (plain : Except Failure α) (found : Except Failure (Option α)) : Prop where
  absent : found = .ok none ↔ ∃ failure, plain = .error failure ∧ failure.isNotFound = true
  present : ∀ value, found = .ok (some value) ↔ plain = .ok value
  failed : ∀ failure, found = .error failure ↔
    plain = .error failure ∧ failure.isNotFound = false

namespace Absorbs

theorem value (value : α) : Absorbs (.ok value) (.ok (some value)) where
  absent := by simp
  present := by simp
  failed := by simp

theorem missing (failure : Failure) (unknown : failure.isNotFound = true) :
    Absorbs (.error failure : Except Failure α) (.ok none) where
  absent := by simpa using unknown
  present := by simp
  failed other := by
    constructor
    · rintro ⟨⟩
    · rintro ⟨⟨⟩, known⟩
      rw [unknown] at known
      cases known

theorem failure (failure : Failure) (known : failure.isNotFound = false) :
    Absorbs (.error failure : Except Failure α) (.error failure) where
  absent := by simpa using known
  present := by simp
  failed other := by
    constructor
    · rintro ⟨⟩
      exact ⟨rfl, known⟩
    · rintro ⟨⟨⟩, _⟩
      rfl

end Absorbs

theorem priceIfKnown_absorbs (reply : Reply) :
    Absorbs (reply.record Price.codec) reply.priceIfKnown.result := by
  rw [Reply.priceIfKnown]
  cases reply.record Price.codec with
  | ok price => exact .value price
  | error failure =>
      by_cases missing : failure.isNotFound = true
      · simp only [if_pos missing]
        exact .missing failure missing
      · simp only [if_neg missing]
        exact .failure failure (Bool.eq_false_iff.mpr missing)

theorem delivery_absorbs (delivery : Delivery) :
    Absorbs (delivery.outcome fun reply => .quiet (reply.record Price.codec)).result
      (delivery.outcome Reply.priceIfKnown).result := by
  cases delivery with
  | unreachable => exact .failure _ rfl
  | closed => exact .failure _ rfl
  | answered reply => exact priceIfKnown_absorbs reply

/-- What no loss on the way can bring about comes from the reply. -/
theorem outcome_answered (read : Reply → Outcome α) (ends : Except Failure α → Prop)
    (notLost : ∀ fault, ¬ ends (.error (.transport fault))) (delivery : Delivery) :
    ends (delivery.outcome read).result ↔
      ∃ reply, delivery = .answered reply ∧ ends (read reply).result := by
  constructor
  · intro ended
    cases delivery with
    | unreachable => exact absurd ended (notLost .unreachable)
    | closed => exact absurd ended (notLost .closed)
    | answered reply => exact ⟨reply, rfl, ended⟩
  · rintro ⟨reply, rfl, ended⟩
    exact ended

theorem delivery_settles (priceId : String) (delivery : Delivery) :
    delivery.Settles (delivery.outcome Reply.priceIfKnown).result
      (delivery.outcome (Endpoint.plainPrice priceId).read).result := by
  have absorbs := delivery_absorbs delivery
  have guarded : (Endpoint.plainPrice priceId).Guarded := Endpoint.ofRecord_guarded ..
  constructor
  case absent =>
    rw [absorbs.absent]
    refine (outcome_answered (Endpoint.plainPrice priceId).read
      (fun result => ∃ failure, result = .error failure ∧ failure.isNotFound = true) ?_
      delivery).trans
        (exists_congr fun reply => and_congr_right fun _ => guarded.read_notFound reply)
    rintro fault ⟨_, ⟨⟩, missing⟩
    cases missing
  case present =>
    intro price
    rw [absorbs.present]
    exact (outcome_answered (Endpoint.plainPrice priceId).read (· = .ok price) nofun
      delivery).trans (exists_congr fun reply => and_congr_right fun _ =>
        reply.record_ok Price.codec price)
  case failed => exact absorbs.failed
  case nothing =>
    rintro reply rfl least greatest nothing
    obtain ⟨fault, unread⟩ := nothing_unread reply.body nothing
    cases found : reply.record Price.codec with
    | ok price =>
        obtain ⟨_, _, _, read⟩ := (reply.record_ok Price.codec price).mp found
        cases unread.symm.trans read
    | error failure =>
        have known := guarded.known reply failure
          (reply.accept_success (reply.isSuccess_iff.mpr ⟨least, greatest⟩)) found
        exact ⟨failure, (absorbs.failed failure).mpr ⟨found, known⟩, found⟩

theorem lookup_settles (priceId : String) (client : Client) (provider : Provider)
    (network : Network) (log : Log) :
    let run := (Call.price priceId).run client provider network log
    let plain := Pending.result
      ((Endpoint.plainPrice priceId).start client provider network log).1
    (run.2.sent = log.sent ∧
        ∃ failure, run.1.result = .error failure ∧ plain = .error failure) ∨
      ∃ request, run.2.sent = log.sent ++ [request] ∧
        (network.deliver request).Settles run.1.result plain := by
  dsimp only
  rw [run_single (.price priceId) client provider network log _ rfl, start_attempt]
  simp only [Endpoint.attempt, Endpoint.plainPrice, Endpoint.ofRecord, Bool.false_eq_true, if_false]
  cases client.request (.get ("/subscription-plan-pricing-system/" ++ priceId) []) none with
  | error failure => exact .inl ⟨List.append_nil _, failure, rfl, rfl⟩
  | ok request => exact .inr ⟨request, rfl, delivery_settles priceId (network.deliver request)⟩

-- Other calls

def Network.Serves (network : Network) (request : Request) : Prop :=
  ∃ reply, network.deliver request = .answered reply ∧ 200 ≤ reply.status ∧ reply.status ≤ 299

theorem Endpoint.Guarded.read_served {endpoint : Endpoint α} (guarded : endpoint.Guarded)
    (network : Network) (request : Request) (value : α)
    (succeeded : (endpoint.pending network request).outcome.result = .ok value) :
    network.Serves request := by
  obtain ⟨reply, delivered, succeeded⟩ :=
    (outcome_answered endpoint.read (· = .ok value) nofun _).mp succeeded
  refine ⟨reply, delivered, reply.isSuccess_iff.mp (reply.accept_ok.mp ?_)⟩
  cases accepted : reply.accept with
  | error failure => cases (guarded.refuses reply failure accepted).symm.trans succeeded
  | ok _ => rfl

/-- An endpoint that has a result has sent its request, and was served. -/
theorem Endpoint.Guarded.start_served {endpoint : Endpoint α} (guarded : endpoint.Guarded)
    (client : Client) (provider : Provider) (network : Network) (log : Log) (value : α)
    (succeeded : Pending.result (endpoint.start client provider network log).1 = .ok value) :
    ∃ request, (endpoint.attempt client provider log.asked).sent = .ok request ∧
      network.Serves request := by
  rw [start_attempt] at succeeded
  cases made : (endpoint.attempt client provider log.asked).sent with
  | error failure =>
      rw [made] at succeeded
      cases succeeded
  | ok request =>
      rw [made] at succeeded
      exact ⟨request, rfl, guarded.read_served network request value succeeded⟩

theorem result_andThen_ok (started : Except Failure (Pending α)) (next : α → Outcome β)
    (value : β)
    (succeeded : Pending.result (started.map (Pending.andThen · next)) = .ok value) :
    ∃ first, Pending.result started = .ok first := by
  cases started with
  | error failure => cases succeeded
  | ok pending =>
      have succeeded : (pending.outcome.andThen next).result = .ok value := succeeded
      rw [Outcome.andThen] at succeeded
      cases ended : pending.outcome.result with
      | ok first => exact ⟨first, ended⟩
      | error failure =>
          rw [ended] at succeeded
          cases succeeded

theorem shape_served (shape : Shape α) (guarded : shape.Guarded) (client : Client)
    (provider : Provider) (network : Network) (log : Log) (value : α)
    (succeeded : Pending.result (Call.startShape client provider network shape log).1 = .ok value) :
    ∀ request ∈ Attempt.requests (shape.attempts client provider log.asked),
      network.Serves request := by
  cases shape with
  | single endpoint =>
      obtain ⟨request, made, served⟩ :=
        guarded.start_served client provider network log value succeeded
      rw [Shape.attempts, Attempt.requests, List.flatMap_singleton, made]
      exact fun other present => List.mem_singleton.mp present ▸ served
  | joined first second combine =>
      obtain ⟨ofFirst, ofSecond⟩ := guarded
      obtain ⟨both, joined⟩ := result_andThen_ok _ _ value succeeded
      obtain ⟨a, b, one, two, _⟩ := ((startBoth_all_or_nothing _ _ log).all both).mp joined
      obtain ⟨request, made, served⟩ := ofFirst.start_served client provider network log a one
      obtain ⟨other, madeOther, servedOther⟩ :=
        ofSecond.start_served client provider network _ b two
      rw [start_attempt, Log.with_asked] at madeOther
      intro sent present
      simp only [Shape.attempts, made, Attempt.requests, List.flatMap_cons, madeOther,
        List.flatMap_nil] at present
      rcases List.mem_pair.mp present with rfl | rfl
      · exact served
      · exact servedOther

theorem call_served (call : Call α) (noLookup : call.isLookup = false) (client : Client)
    (provider : Provider) (network : Network) (log : Log) (value : α)
    (succeeded : (call.run client provider network log).1.result = .ok value) :
    ∀ request ∈ (call.run client provider network log).2.sent.drop log.sent.length,
      network.Serves request := by
  rw [run_log, Log.with, List.drop_left]
  exact shape_served (call.shape client.platform) (shape_guarded call client.platform noLookup)
    client provider network log value succeeded

/-- A lookup takes it for an answer that a price is not known, and for all else it fails as the
plain request does. No other call has a result unless each of its requests was answered by a
success. -/
theorem absence_in_one_place :
    (∀ (priceId : String) (client : Client) (provider : Provider) (network : Network) (log : Log),
      let run := (Call.price priceId).run client provider network log
      let plain := Pending.result
        ((Endpoint.plainPrice priceId).start client provider network log).1
      (run.2.sent = log.sent ∧
          ∃ failure, run.1.result = .error failure ∧ plain = .error failure) ∨
        ∃ request, run.2.sent = log.sent ++ [request] ∧
          (network.deliver request).Settles run.1.result plain) ∧
    ∀ {α : Type} (call : Call α) (client : Client) (provider : Provider) (network : Network)
      (log : Log) (value : α), call.isLookup = false →
      (call.run client provider network log).1.result = .ok value →
      ∀ request ∈ (call.run client provider network log).2.sent.drop log.sent.length,
        network.Serves request :=
  ⟨lookup_settles, fun call client provider network log value noLookup succeeded =>
    call_served call noLookup client provider network log value succeeded⟩

def gone : Reply := ⟨404, Text.bytes "gone", true⟩

def noUsages : Reply := ⟨200, Text.bytes "[]", true⟩

def sold : Reply := .holding Price.codec (.monthly "gold" "P1")

theorem prices_looked_up :
    (answeredBy gone (.price "gold")).1.result = .ok none ∧
      (answeredBy sold (.price "gold")).1.result = .ok (some (.monthly "gold" "P1")) ∧
      ∃ request, (answeredBy noUsages (.usages "ada")).2.sent = [request] ∧
        (answering noUsages).Serves request := by
  have settled (reply : Reply) (once : (answeredBy reply (.price "gold")).2.sent.length = 1) :
      ∃ plain, (Delivery.answered reply).Settles (answeredBy reply (.price "gold")).1.result
        plain := by
    rcases absence_in_one_place.1 "gold" localClient (BearerToken.provider ⟨"token"⟩)
      (answering reply) .start with ⟨unsent, _⟩ | ⟨request, _, settles⟩
    · rw [answeredBy, unsent] at once
      cases once
    · exact ⟨_, settles⟩
  refine ⟨?_, ?_, ?_⟩
  · obtain ⟨_, settles⟩ := settled gone (by decide +kernel)
    exact settles.absent.mpr ⟨gone, rfl, rfl, rfl⟩
  · obtain ⟨_, settles⟩ := settled sold (by decide +kernel)
    have decoded : Price.codec.ofBytes sold.body = .ok (.monthly "gold" "P1") := by decide +kernel
    exact (settles.present _).mpr ⟨sold, rfl, by decide, by decide, rfl, decoded⟩
  · have once : (answeredBy noUsages (.usages "ada")).2.sent.length = 1 := by decide +kernel
    obtain ⟨request, sent⟩ := List.length_eq_one_iff.mp once
    have served := absence_in_one_place.2 (.usages "ada") localClient
      (BearerToken.provider ⟨"token"⟩) (answering noUsages) .start [] rfl (by decide +kernel)
    refine ⟨request, sent, served request ?_⟩
    rw [← answeredBy, sent]
    exact List.mem_cons_self

end Entitlement
