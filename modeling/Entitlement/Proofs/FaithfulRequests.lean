import Entitlement.Proofs.Authorization
import Entitlement.Proofs.EndpointAddress
import Entitlement.Proofs.JsonText
import Entitlement.Proofs.WireFormat

/-!
Requests say what their calls were given. For each call there are errands: the endpoint, the pairs
of the query and the arguments in the body. What a request carries is read back from its written
form, the query as a form and the body as JSON text, so nothing in an argument can change what the
service is asked for. Only the lookup of a price puts its argument into a path; it is left out here.
-/

namespace Entitlement

open Json Record Text

-- What calls have to say

/-- The arguments in the body of a request, and the form in which they are written. -/
structure Body where
  {Arguments : Type}
  codec : Codec Arguments
  arguments : Arguments

namespace Body

def empty : Body := ⟨.record "Empty" .nil (fun () => ()) (fun () => ()), ()⟩

def change (planId : Option String) (options : ChangeOptions) : Body :=
  ⟨.record "ChangeSubscriptionRequest"
    (.field "planId" (.option .text) .nullable <|
      .field "cancelImmediately" .bool .required <|
      .field "cancelReasons" CancelReasons.codec .required .nil)
    (fun (planId, immediately, reasons, ()) => (planId, (⟨immediately, reasons⟩ : ChangeOptions)))
    (fun (planId, options) => (planId, options.cancelImmediately, options.cancelReasons, ())),
    (planId, options)⟩

def redeem (code : String) : Body :=
  ⟨.record "RedeemCodeRequest" (.field "code" .text .required .nil)
    (fun (code, ()) => code) (fun code => (code, ())), code⟩

def cashOut (kind : CashOut) : Body :=
  ⟨.record "CashOutRequest" (.field "type" CashOut.codec .required .nil)
    (fun (kind, ()) => kind) (fun kind => (kind, ())), kind⟩

def upload (kind : UploadKind) (key contentType : String) : Body :=
  ⟨.record "SignedUrlRequest"
    (.field "uploadType" UploadKind.codec .required <|
      .field "key" .text .required <|
      .field "contentType" .text .required .nil)
    (fun (kind, key, contentType, ()) => (kind, key, contentType))
    (fun (kind, key, contentType) => (kind, key, contentType, ())), (kind, key, contentType)⟩

def uploads (kind : UploadKind) (files : List UploadFile) : Body :=
  ⟨.record "SignedUrlsRequest"
    (.field "uploadType" UploadKind.codec .required <|
      .field "files" (.list UploadFile.codec) .required .nil)
    (fun (kind, files, ()) => (kind, files)) (fun (kind, files) => (kind, files, ())),
    (kind, files)⟩

-- Each of them can be read back

theorem empty_lawful : empty.codec.Lawful :=
  .record .nil (by decide) (fun _ => rfl) (fun _ => rfl)

theorem change_lawful (planId : Option String) (options : ChangeOptions) :
    (change planId options).codec.Lawful :=
  .record
    (.nullable .text rfl <| .required .bool rfl <|
      .required (.dict CancelReason.codec_lawful) rfl .nil)
    (by decide) (fun _ => rfl) (fun _ => rfl)

theorem redeem_lawful (code : String) : (redeem code).codec.Lawful :=
  .record (.required .text rfl .nil) (by decide) (fun _ => rfl) (fun _ => rfl)

theorem cashOut_lawful (kind : CashOut) : (cashOut kind).codec.Lawful :=
  .record (.required CashOut.codec_lawful rfl .nil) (by decide) (fun _ => rfl) (fun _ => rfl)

theorem upload_lawful (kind : UploadKind) (key contentType : String) :
    (upload kind key contentType).codec.Lawful :=
  .record
    (.required UploadKind.codec_lawful rfl <| .required .text rfl <| .required .text rfl .nil)
    (by decide) (fun _ => rfl) (fun _ => rfl)

theorem uploads_lawful (kind : UploadKind) (files : List UploadFile) :
    (uploads kind files).codec.Lawful :=
  .record
    (.required UploadKind.codec_lawful rfl <| .required (.list UploadFile.codec_lawful) rfl .nil)
    (by decide) (fun _ => rfl) (fun _ => rfl)

theorem change_fits (planId : Option String) (options : ChangeOptions) :
    Tree.membersFit 127 (changeBody planId options) = true := by
  have reasons := Tree.membersFit_map 126 CancelReason.codec.encode options.cancelReasons.entries
    fun reason => by cases reason <;> rfl
  cases planId <;>
    simp [changeBody, optionTree, CancelReasons.codec, Codec.encode, Tree.membersFit, Tree.fits,
      reasons]

theorem uploads_fits (kind : UploadKind) (files : List UploadFile) :
    Tree.membersFit 127 [("uploadType", UploadKind.codec.encode kind),
      ("files", .list (files.map UploadFile.codec.encode))] = true := by
  have items := Tree.itemsFit_map 126 UploadFile.codec.encode files fun file => by rfl
  simp [UploadKind.codec, Codec.encode, Tree.membersFit, Tree.fits, items]

end Body

/-- What one request of a call has to say, wherever the service is. -/
structure Errand where
  method : Method
  endpoint : String
  pairs : List (String × String)
  body : Option Body

def listPairs (includeLegacy : Bool) (planIds : List String) (userId : Option String) :
    List (String × String) :=
  ("includeLegacy", if includeLegacy then "true" else "false") ::
    ((if planIds.isEmpty then [] else [("subscriptionPlanIds", ",".intercalate planIds)]) ++
      userId.toList.map fun id => ("userId", id))

namespace Call

variable {α : Type}

def looksUp : {α : Type} → Call α → Bool
  | _, .price _ => true
  | _, _ => false

/-- The plans that prices are asked for; none stands for all of them. -/
def planIds : {α : Type} → Call α → List String
  | _, .prices ids _ _ => ids.getD []
  | _, _ => []

def errands (platform : Platform) : {α : Type} → Call α → List Errand
  | _, .plans includeLegacy userId =>
      [⟨.get, "subscription-plan", listPairs includeLegacy [] userId, none⟩]
  | _, .price priceId => [⟨.get, "subscription-plan-pricing-system/" ++ priceId, [], none⟩]
  | _, .prices ids includeLegacy userId =>
      [⟨.get, "subscription-plan-pricing-system", listPairs includeLegacy (ids.getD []) userId,
        none⟩]
  | _, .catalog includeLegacy userId =>
      [⟨.get, "subscription-plan", listPairs includeLegacy [] userId, none⟩,
        ⟨.get, "subscription-plan-pricing-system", listPairs includeLegacy [] userId, none⟩]
  | _, .subscription userId => [⟨.get, "subscription-v2", [("userId", userId)], none⟩]
  | _, .changeSubscription userId planId options =>
      [⟨.post, "subscription-v2", [("userId", userId)], some (.change planId options)⟩]
  | _, .portalUrl userId =>
      [⟨.post, "subscription-v2/action/redirect-to-portal", [("userId", userId)], some .empty⟩]
  | _, .limits userId =>
      [⟨.get, "limits", ("userId", userId) ::
        (if platform = .mobile then [("platform", "mobile")] else []), none⟩]
  | _, .usages userId => [⟨.get, "usage", [("userId", userId)], none⟩]
  | _, .redeemCode userId code =>
      [⟨.post, "redemption-code/action/redeem-code", [("userId", userId)], some (.redeem code)⟩]
  | _, .redemptionCodes userId => [⟨.get, "redemption-code", [("userId", userId)], none⟩]
  | _, .earnings userId => [⟨.get, "user-earnings-balance", [("userId", userId)], none⟩]
  | _, .cashOut userId kind =>
      [⟨.post, "user-earnings-balance/action/cash-out", [("userId", userId)],
        some (.cashOut kind)⟩]
  | _, .signedUrl kind key contentType =>
      [⟨.post, "upload-options/signed-url", [], some (.upload kind key contentType)⟩]
  | _, .signedUrls kind files =>
      [⟨.post, "upload-options/signed-url", [], some (.uploads kind files)⟩]

end Call

-- What requests carry

def Errand.address (base : Url) (errand : Errand) : List Char :=
  base.scheme ++ ':' :: (Url.authorityText base.authority ++ base.path.stem ++
    '/' :: errand.endpoint.toList ++
    (if errand.pairs.isEmpty then [] else '?' :: Form.write errand.pairs))

def Provider.IsReady (provider : Provider) : Prop :=
  ∀ number, ∃ header, provider number = .ok header ∧ isHeaderValue header = true

/-- A body that reads back as its arguments, and holds nothing else. -/
def Body.IsReadFrom (sent : Option Tree) : Option Body → Prop
  | none => sent = none
  | some body => ∃ tree, sent = some tree ∧
      Tree.ofPieces (pieces (bytes tree.write)) =
        .ok (body.codec.encode body.arguments).canonical ∧
      body.codec.ofTree (body.codec.encode body.arguments).canonical = .ok body.arguments

structure Errand.Located (base : Url) (errand : Errand) (url : Url) : Prop where
  host : url.scheme = base.scheme ∧ url.authority = base.authority
  path : url.path.text = base.path.stem ++ '/' :: errand.endpoint.toList
  pairs : url.pairs = errand.pairs
  noFragment : url.fragment = none
  written : url.chars = errand.address base

structure Request.Carries (base : Url) (errand : Errand) (request : Request) : Prop where
  method : request.method = errand.method
  located : errand.Located base request.url
  body : Body.IsReadFrom request.body errand.body

structure Errand.Of (ask : Ask) (errand : Errand) : Prop where
  method : ask.method = errand.method
  endpoint : Client.withoutStartSlashes ask.path = errand.endpoint
  plain : Url.Written errand.endpoint.toList
  pairs : ask.query = errand.pairs
  body : ask.body = errand.body.map fun body => body.codec.encode body.arguments
  lawful : ∀ body ∈ errand.body, body.codec.Lawful
  fits : ∀ body ∈ errand.body,
    (body.codec.encode body.arguments).fits Document.depthLimit = true

def Shape.asks {α : Type} : Shape α → List Ask
  | .single endpoint => [endpoint.ask]
  | .joined first second _ => [first.ask, second.ask]

def endpoints : List String :=
  ["subscription-plan", "subscription-plan-pricing-system", "subscription-v2",
    "subscription-v2/action/redirect-to-portal", "limits", "usage",
    "redemption-code/action/redeem-code", "redemption-code", "user-earnings-balance",
    "user-earnings-balance/action/cash-out", "upload-options/signed-url"]

theorem endpoints_written (endpoint : String) (known : endpoint ∈ endpoints) :
    Url.Written endpoint.toList := by
  have kept : ∀ endpoint ∈ endpoints,
      endpoint.toList.all (fun c => keptInPath c && c != '\\') = true := by decide
  have undotted : ∀ endpoint ∈ endpoints, ∀ segment ∈ UrlPath.segmentsOf endpoint.toList,
      UrlPath.isDot segment = false := by decide
  refine ⟨fun c present => ?_, undotted endpoint known⟩
  have held := List.all_eq_true.mp (kept endpoint known) c present
  simpa using held

section Errands

variable (path endpoint : String) (pairs : List (String × String)) (known : endpoint ∈ endpoints)
  (named : Client.withoutStartSlashes path = endpoint)

include known named

theorem Errand.of_get : Errand.Of (.get path pairs) ⟨.get, endpoint, pairs, none⟩ :=
  ⟨rfl, named, endpoints_written endpoint known, rfl, rfl, nofun, nofun⟩

theorem Errand.of_post (body : Body) (members : List (String × Tree))
    (written : body.codec.encode body.arguments = .object members) (lawful : body.codec.Lawful)
    (fits : Tree.membersFit 127 members = true) :
    Errand.Of (.post path pairs members) ⟨.post, endpoint, pairs, some body⟩ := by
  refine ⟨rfl, named, endpoints_written endpoint known, rfl, congrArg some written.symm, ?_, ?_⟩
  · rintro _ ⟨rfl⟩
    exact lawful
  · rintro _ ⟨rfl⟩
    rw [written]
    exact fits

end Errands

theorem call_errands {α : Type} (call : Call α) (platform : Platform)
    (outside : call.looksUp = false) :
    List.Forall₂ Errand.Of (call.shape platform).asks (call.errands platform) := by
  cases call
  case price => cases outside
  case plans includeLegacy userId =>
    cases userId <;>
      exact .cons (Errand.of_get "/subscription-plan" "subscription-plan" _ (by decide)
        (by decide)) .nil
  case prices ids includeLegacy userId =>
    have prices := Errand.of_get "/subscription-plan-pricing-system"
      "subscription-plan-pricing-system" (listPairs includeLegacy (ids.getD []) userId)
      (by decide) (by decide)
    rcases ids with _ | _ | ⟨id, more⟩ <;> cases userId <;> exact .cons prices .nil
  case catalog includeLegacy userId =>
    have plans := Errand.of_get "/subscription-plan" "subscription-plan"
      (listPairs includeLegacy [] userId) (by decide) (by decide)
    have prices := Errand.of_get "/subscription-plan-pricing-system"
      "subscription-plan-pricing-system" (listPairs includeLegacy [] userId) (by decide) (by decide)
    cases userId <;> exact .cons plans (.cons prices .nil)
  case subscription userId =>
    exact .cons (Errand.of_get "/subscription-v2" "subscription-v2" _ (by decide) (by decide)) .nil
  case changeSubscription userId planId options =>
    exact .cons (Errand.of_post "/subscription-v2" "subscription-v2" _ (by decide) (by decide) _ _
      rfl (Body.change_lawful planId options) (Body.change_fits planId options)) .nil
  case portalUrl userId =>
    exact .cons (Errand.of_post "/subscription-v2/action/redirect-to-portal"
      "subscription-v2/action/redirect-to-portal" _ (by decide) (by decide) _ _ rfl
      Body.empty_lawful rfl) .nil
  case limits userId =>
    cases platform <;>
      exact .cons (Errand.of_get "/limits" "limits" _ (by decide) (by decide)) .nil
  case usages userId =>
    exact .cons (Errand.of_get "/usage" "usage" _ (by decide) (by decide)) .nil
  case redeemCode userId code =>
    exact .cons (Errand.of_post "/redemption-code/action/redeem-code"
      "redemption-code/action/redeem-code" _ (by decide) (by decide) _ _ rfl
      (Body.redeem_lawful code) rfl) .nil
  case redemptionCodes userId =>
    exact .cons (Errand.of_get "/redemption-code" "redemption-code" _ (by decide) (by decide)) .nil
  case earnings userId =>
    exact .cons (Errand.of_get "/user-earnings-balance" "user-earnings-balance" _ (by decide)
      (by decide)) .nil
  case cashOut userId kind =>
    exact .cons (Errand.of_post "/user-earnings-balance/action/cash-out"
      "user-earnings-balance/action/cash-out" _ (by decide) (by decide) _ _ rfl
      (Body.cashOut_lawful kind) rfl) .nil
  case signedUrl kind key contentType =>
    exact .cons (Errand.of_post "/upload-options/signed-url" "upload-options/signed-url" _
      (by decide) (by decide) _ _ rfl (Body.upload_lawful kind key contentType) rfl) .nil
  case signedUrls kind files =>
    exact .cons (Errand.of_post "/upload-options/signed-url" "upload-options/signed-url" _
      (by decide) (by decide) _ _ rfl (Body.uploads_lawful kind files)
      (Body.uploads_fits kind files)) .nil

-- One request

theorem write_filled (pairs : List (String × String)) (some : pairs ≠ []) :
    (Form.write pairs).isEmpty = false := by
  match pairs with
  | [] => exact absurd rfl some
  | [pair] => simp [Form.write, Form.joinWith, Form.writePair]
  | pair :: next :: rest => simp [Form.write, Form.joinWith, Form.writePair]

/-- Pairs that are added to a URL without a query are all of its query. -/
theorem asked_query (url : Url) (noQuery : url.query = none) (pairs : List (String × String)) :
    (url.withPairs pairs).withoutEmptyQuery =
      { url with query := if pairs.isEmpty then none else some (Form.write pairs) } := by
  rw [Url.withoutEmptyQuery, Url.withPairs, noQuery, Option.getD_none, Form.append]
  cases pairs with
  | nil => rfl
  | cons pair rest =>
      have filled := write_filled (pair :: rest) (List.cons_ne_nil _ _)
      simp [filled]

theorem pairs_asked (pairs : List (String × String)) :
    Form.read ((if pairs.isEmpty then none else some (Form.write pairs)).getD []) = pairs := by
  cases pairs with
  | nil => rfl
  | cons pair rest => exact Form.read_write (pair :: rest)

theorem body_read (body : Option Body) (lawful : ∀ held ∈ body, held.codec.Lawful)
    (fits : ∀ held ∈ body, (held.codec.encode held.arguments).fits Document.depthLimit = true) :
    Body.IsReadFrom (body.map fun held => held.codec.encode held.arguments) body := by
  cases body with
  | none => rfl
  | some held =>
      refine ⟨_, rfl, Tree.ofPieces_write _ (fits held rfl), ?_⟩
      rw [Codec.ofTree, (Tree.canonical_sorted _).canonical_same]
      exact Codec.decode_encode Source.tree_reads (lawful held rfl) held.arguments

section Sent

variable {text : String} {base : Url} (plain : PlainBase text base) (client : Client)
  (based : client.baseUrl = text)

include plain based

theorem request_located (ask : Ask) (errand : Errand) (of : Errand.Of ask errand) :
    ∃ url, errand.Located base url ∧ ∀ (header : Option String) (request : Request),
      client.request ask header = .ok request ↔
        request.url = url ∧ request.method = ask.method ∧ request.body = ask.body ∧
          request.authorizations = header.toList ∧ header.all isHeaderValue = true ∧
          Client.carriesHost request.url = true ∧
          request.url.chars.length ≤ Client.longestAddress := by
  obtain ⟨before, stem, found⟩ := plain.urlOf_below client based
  have same := Url.below_segments base before _ of.plain
  have path := Url.below_path base before _ of.plain
  rw [← stem] at path
  have unnamed (tail : List Char) : (((base.below before tail).withPairs
      ask.query).withoutEmptyQuery).authority.any Authority.hasUserInfo = false := by
    rw [Url.asked_authority, Url.below_authority]
    exact plain.unnamed
  have builds := request_iff client ask _ (found ask)
  simp only [shown_without_user _ (unnamed _), own_without_user _ (unnamed _),
    List.nil_append] at builds
  refine ⟨_, ?_, builds⟩
  rw [of.endpoint, of.pairs, asked_query _ (by rw [same])]
  refine ⟨⟨rfl, rfl⟩, path, pairs_asked errand.pairs, by rw [same], ?_⟩
  have guardless : Url.guard { base.below before (Url.endTrimmed errand.endpoint.toList) with
      query := if errand.pairs.isEmpty then none else some (Form.write errand.pairs) } = [] := by
    obtain ⟨authority, held⟩ : ∃ authority, base.authority = some authority := by
      cases held : base.authority with
      | none =>
          have hosted := plain.read_below.1
          rw [Url.host?, held] at hosted
          cases hosted
      | some authority => exact ⟨authority, rfl⟩
    simp [Url.guard, held]
  rw [Url.chars, guardless, Url.target, path, Errand.address, same]
  cases errand.pairs.isEmpty <;> simp [Url.marked]

theorem request_carries (ask : Ask) (errand : Errand) (of : Errand.Of ask errand)
    (header : Option String) (request : Request)
    (built : client.request ask header = .ok request) : request.Carries base errand := by
  obtain ⟨url, located, builds⟩ := request_located plain client based ask errand of
  obtain ⟨rfl, method, body, _⟩ := (builds header request).mp built
  refine ⟨by rw [method, of.method], located, ?_⟩
  rw [body, of.body]
  exact body_read errand.body of.lawful of.fits

/-- A request is built whenever the header may be sent, requests can name the host and the URL is
not too long. -/
theorem request_built (ask : Ask) (errand : Errand) (of : Errand.Of ask errand)
    (header : Option String) (legal : header.all isHeaderValue = true)
    (hosted : Client.carriesHost base = true)
    (short : (errand.address base).length ≤ Client.longestAddress) :
    ∃ request, client.request ask header = .ok request := by
  obtain ⟨url, located, builds⟩ := request_located plain client based ask errand of
  have sameHost : url.host? = base.host? := congrArg (·.bind Authority.host) located.host.2
  refine ⟨⟨ask.method, url, header.toList, ask.body⟩, (builds header _).mpr ?_⟩
  refine ⟨rfl, rfl, rfl, rfl, legal, ?_, ?_⟩
  · rw [carriesHost_congr url base sameHost]
    exact hosted
  · rw [located.written]
    exact short

-- All requests of a call

/-- Whatever an endpoint sends carries its errand; it fails to send it only for want of a header or
of a host that requests can name, or because the URL is too long. -/
theorem attempt_carries {α : Type} (endpoint : Endpoint α) (errand : Errand)
    (of : Errand.Of endpoint.ask errand) (provider : Provider) (asked : Nat) :
    (∃ request, (endpoint.attempt client provider asked).sent = .ok request ∧
      request.Carries base errand) ∨
    (∃ failure, (endpoint.attempt client provider asked).sent = .error failure ∧
      (provider.IsReady → Client.carriesHost base = true →
        Client.longestAddress < (errand.address base).length)) := by
  cases sent : (endpoint.attempt client provider asked).sent with
  | ok request =>
      refine .inl ⟨request, rfl, ?_⟩
      rw [Endpoint.attempt] at sent
      split at sent
      · obtain ⟨header, _, built⟩ := (bind_ok _ _ _).mp sent
        exact request_carries plain client based endpoint.ask errand of (some header) request built
      · exact request_carries plain client based endpoint.ask errand of none request sent
  | error failure =>
      refine .inr ⟨failure, rfl, fun ready hosted => ?_⟩
      by_contra short
      have built (header : Option String) (legal : header.all isHeaderValue = true) :=
        request_built plain client based endpoint.ask errand of header legal hosted
          (Nat.le_of_not_lt short)
      rw [Endpoint.attempt] at sent
      split at sent
      · obtain ⟨header, provided, legal⟩ := ready asked
        obtain ⟨request, made⟩ := built (some header) legal
        rcases bind_error _ _ _ sent with refused | ⟨other, same, failed⟩
        · rw [provided] at refused
          cases refused
        · obtain rfl := Except.ok.inj (provided.symm.trans same)
          rw [made] at failed
          cases failed
      · obtain ⟨request, made⟩ := built none rfl
        dsimp only at sent
        rw [made] at sent
        cases sent

/-- The requests of a shape carry its first errands, and all of them if nothing is in the way. -/
theorem shape_carries {α : Type} (shape : Shape α) (errands : List Errand)
    (of : List.Forall₂ Errand.Of shape.asks errands) (provider : Provider) (asked : Nat) :
    ∃ done rest, errands = done ++ rest ∧
      List.Forall₂ (Request.Carries base) done
        (Attempt.requests (shape.attempts client provider asked)) ∧
      (provider.IsReady → Client.carriesHost base = true →
        (∀ errand ∈ errands, (errand.address base).length ≤ Client.longestAddress) →
          rest = []) := by
  cases shape with
  | single endpoint =>
      obtain ⟨errand, others, ofFirst, none, rfl⟩ := List.forall₂_cons_left_iff.mp of
      obtain rfl := List.forall₂_nil_left_iff.mp none
      rw [Shape.attempts]
      rcases attempt_carries plain client based endpoint errand ofFirst provider asked with
        ⟨request, sent, carries⟩ | ⟨failure, sent, long⟩
      · refine ⟨[errand], [], rfl, ?_, fun _ _ _ => rfl⟩
        simpa [Attempt.requests, sent, Except.toOption] using carries
      · refine ⟨[], [errand], rfl, ?_, fun ready hosted short => ?_⟩
        · simp [Attempt.requests, sent, Except.toOption]
        · exact absurd (short errand List.mem_cons_self) (Nat.not_le_of_lt (long ready hosted))
  | joined first second combine =>
      obtain ⟨one, others, ofFirst, more, rfl⟩ := List.forall₂_cons_left_iff.mp of
      obtain ⟨two, others, ofSecond, none, rfl⟩ := List.forall₂_cons_left_iff.mp more
      obtain rfl := List.forall₂_nil_left_iff.mp none
      rw [Shape.attempts]
      rcases attempt_carries plain client based first one ofFirst provider asked with
        ⟨request, sent, carries⟩ | ⟨failure, sent, long⟩
      · rw [sent]
        rcases attempt_carries plain client based second two ofSecond provider
          (asked + (Attempt.answers [first.attempt client provider asked]).length) with
          ⟨other, sentOther, carriesOther⟩ | ⟨failure, sentOther, long⟩
        · refine ⟨[one, two], [], rfl, ?_, fun _ _ _ => rfl⟩
          simpa [Attempt.requests, sent, sentOther, Except.toOption] using ⟨carries, carriesOther⟩
        · refine ⟨[one], [two], rfl, ?_, fun ready hosted short => ?_⟩
          · simpa [Attempt.requests, sent, sentOther, Except.toOption] using carries
          · exact absurd (short two (by simp)) (Nat.not_le_of_lt (long ready hosted))
      · rw [sent]
        refine ⟨[], [one, two], rfl, ?_, fun ready hosted short => ?_⟩
        · simp [Attempt.requests, sent, Except.toOption]
        · exact absurd (short one (by simp)) (Nat.not_le_of_lt (long ready hosted))

end Sent

-- Plans that prices are asked for

def atCommas (text : String) : List String :=
  (Form.splitAt ',' text.toList).map String.ofList

theorem atCommas_joined (ids : List String) (some : ids ≠ [])
    (clean : ∀ id ∈ ids, ',' ∉ id.toList) : atCommas (",".intercalate ids) = ids := by
  have joined : (",".intercalate ids).toList = Form.joinWith ',' (ids.map String.toList) := by
    rw [String.toList_intercalate, Form.joinWith_intercalate]
    rfl
  rw [atCommas, joined, Form.splitAt_joinWith ',' _ (by simpa using some) (by simpa using clean),
    List.map_map]
  exact (List.map_congr_left fun id _ => String.ofList_toList).trans (List.map_id' ids)

/-- The pair of an errand that names plans names those that the call was given. -/
theorem errand_planIds {α : Type} (call : Call α) (platform : Platform) (errand : Errand)
    (present : errand ∈ call.errands platform) (value : String)
    (named : ("subscriptionPlanIds", value) ∈ errand.pairs) :
    value = ",".intercalate call.planIds ∧ call.planIds ≠ [] := by
  have listed (includeLegacy : Bool) (ids : List String) (userId : Option String)
      (held : ("subscriptionPlanIds", value) ∈ listPairs includeLegacy ids userId) :
      value = ",".intercalate ids ∧ ids ≠ [] := by
    cases ids <;> cases userId <;> simp_all [listPairs]
  cases call
  case prices ids includeLegacy userId =>
    obtain rfl := List.mem_singleton.mp present
    exact listed includeLegacy _ userId named
  case plans includeLegacy userId =>
    obtain rfl := List.mem_singleton.mp present
    exact absurd rfl (listed includeLegacy [] userId named).2
  case catalog includeLegacy userId =>
    rcases List.mem_pair.mp present with rfl | rfl
    · exact absurd rfl (listed includeLegacy [] userId named).2
    · exact absurd rfl (listed includeLegacy [] userId named).2
  case limits userId =>
    obtain rfl := List.mem_singleton.mp present
    cases platform <;> simp at named
  all_goals
    obtain rfl := List.mem_singleton.mp present
    simp at named

/-- The requests of a call say what the call was given. They are the ones that its run sends, in the
order of its errands. -/
structure Call.Faithful {α : Type} (base : Url) (client : Client) (provider : Provider)
    (network : Network) (log : Log) (call : Call α) (requests : List Request) : Prop where
  sent : (call.run client provider network log).2.sent = log.sent ++ requests
  carried : ∃ done rest, call.errands client.platform = done ++ rest ∧
    List.Forall₂ (Request.Carries base) done requests ∧
    (provider.IsReady → Client.carriesHost base = true →
      (∀ errand ∈ call.errands client.platform,
        (errand.address base).length ≤ Client.longestAddress) → rest = [])
  planIds : ∀ request ∈ requests, ∀ value, ("subscriptionPlanIds", value) ∈ request.url.pairs →
    (∀ id ∈ call.planIds, ',' ∉ id.toList) → atCommas value = call.planIds

/-- Whatever texts a call is given, its requests carry them unchanged: they go to the endpoint below
the path of the base, which loses the slash at its end, and their query and body read back as what
the call was given. Slashes behind the base change nothing. -/
theorem requests_faithful (text : String) (base : Url) (plain : PlainBase text base)
    (settings : ClientSettings) (slashes : Nat)
    (given : settings.baseUrl = text ++ String.ofList (List.replicate slashes '/')) :
    Client.ofSettings settings = .ok ⟨text, settings.platform⟩ ∧
      (¬ ['/', '/'] <:+ base.path.text → base.path.stem = base.path.bare) ∧
      ∀ {α : Type} (call : Call α), call.looksUp = false → ∀ provider network log,
        ∃ requests, call.Faithful base ⟨text, settings.platform⟩ provider network log requests := by
  refine ⟨plain.made settings slashes given, base.path.stem_bare, ?_⟩
  intro α call outside provider network log
  have of := call_errands call settings.platform outside
  obtain ⟨done, rest, whole, carried, complete⟩ := shape_carries plain
    ⟨text, settings.platform⟩ rfl (call.shape settings.platform) _ of provider log.asked
  refine ⟨_, ?sent, ⟨done, rest, whole, carried, complete⟩, ?planIds⟩
  case sent => exact congrArg Log.sent (startShape_log _ provider network _ log)
  case planIds =>
    intro request present value named clean
    obtain ⟨errand, inDone, carries⟩ := forall₂_right carried request present
    rw [carries.located.pairs] at named
    have inAll : errand ∈ call.errands settings.platform := by
      rw [whole]
      exact List.mem_append_left _ inDone
    obtain ⟨rfl, some⟩ := errand_planIds call settings.platform errand inAll value named
    exact atCommas_joined _ some clean

def apiBase : Url :=
  ⟨"http".toList, some ⟨[], [], some (.ipv6 [0, 0, 0, 0, 0, 0, 0, 1]), none⟩,
    .rooted ["api".toList], none, none⟩

def apiSettings : ClientSettings := ⟨"http://[::1]/api//", 30, .mobile⟩

def trickyPrices : Call (List Price) := .prices (some ["a b", "c&d=#"]) true (some "50%+é")

theorem tricky_prices_faithful :
    PlainBase "http://[::1]/api" apiBase ∧ trickyPrices.looksUp = false ∧
      (∃ requests, trickyPrices.Faithful apiBase ⟨"http://[::1]/api", .mobile⟩
        (BearerToken.provider ⟨"token"⟩) unreached .start requests) ∧
      (trickyPrices.run ⟨"http://[::1]/api", .mobile⟩ (BearerToken.provider ⟨"token"⟩) unreached
        .start).2.sent.map Request.target =
        ["/api/subscription-plan-pricing-system?includeLegacy=true" ++
          "&subscriptionPlanIds=a+b%2Cc%26d%3D%23&userId=50%25%2B%C3%A9"] := by
  have plain : PlainBase "http://[::1]/api" apiBase :=
    ⟨⟨rfl, rfl, rfl, rfl, by rintro _ ⟨⟩; decide⟩, rfl⟩
  exact ⟨plain, rfl, (requests_faithful _ apiBase plain apiSettings 2 (by decide)).2.2 trickyPrices
    rfl _ unreached .start, by decide +kernel⟩

def limitsPaths (address : String) : List (List Char) :=
  ((Call.limits "ada").run ⟨address, .desktop⟩ (BearerToken.provider ⟨"token"⟩) unreached
    .start).2.sent.map (·.url.path.text)

def pathBase (segments : List (List Char)) : Url :=
  ⟨"http".toList, some ⟨[], [], some (.ipv6 [0, 0, 0, 0, 0, 0, 0, 1]), none⟩, .rooted segments,
    none, none⟩

/-- Two addresses that are read alone when a client is made, and with an endpoint behind them when
it asks: its requests do not go to their path without slashes at its end. A dot segment leaves a
slash, and the slash before it stays; a control character is trimmed at the end of the whole
only. -/
theorem path_not_bare :
    (PlainBase "http://[::1]/a//." (pathBase ["a".toList, [], []]) ∧
      limitsPaths "http://[::1]/a//." = ["/a//limits".toList] ∧
      (pathBase ["a".toList, [], []]).path.bare ++ "/limits".toList = "/a/limits".toList) ∧
    (Url.read "http://[::1]/a\x01" = .ok (pathBase ["a".toList]) ∧
      Client.ofSettings (.ofBaseUrl "http://[::1]/a\x01") =
        .ok ⟨"http://[::1]/a\x01", .desktop⟩ ∧
      limitsPaths "http://[::1]/a\x01" = ["/a%01/limits".toList] ∧
      (pathBase ["a".toList]).path.bare ++ "/limits".toList = "/a/limits".toList) := by
  have plain : PlainBase "http://[::1]/a//." (pathBase ["a".toList, [], []]) :=
    ⟨⟨rfl, rfl, rfl, rfl, by rintro _ ⟨⟩; decide⟩, rfl⟩
  exact ⟨⟨plain, by decide +kernel, by decide⟩, rfl, rfl, by decide +kernel, by decide⟩

end Entitlement
