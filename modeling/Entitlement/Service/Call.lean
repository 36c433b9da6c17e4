import Entitlement.Activity
import Entitlement.Catalog
import Entitlement.Limits
import Entitlement.Service.Reply
import Entitlement.Service.Request

/-!
The calls that the service answers. Each call says what it asks for, whether it does so for a user,
and how it reads the reply.
-/

namespace Entitlement

open Json Record

structure ChangeOptions where
  cancelImmediately : Bool
  cancelReasons : CancelReasons
  deriving DecidableEq

def ChangeOptions.default : ChangeOptions := ⟨false, .empty⟩

inductive Call : Type → Type where
  | plans (includeLegacy : Bool) (userId : Option String) : Call (List Plan)
  | price (priceId : String) : Call (Option Price)
  | prices (planIds : Option (List String)) (includeLegacy : Bool) (userId : Option String) :
      Call (List Price)
  /-- The catalog: plans and prices are asked for at the same time and joined. -/
  | catalog (includeLegacy : Bool) (userId : Option String) : Call Catalog
  | subscription (userId : String) : Call Subscription
  | changeSubscription (userId : String) (planId : Option String) (options : ChangeOptions) :
      Call Subscription
  | portalUrl (userId : String) : Call String
  | limits (userId : String) : Call Limits
  | usages (userId : String) : Call (List Usage)
  | redeemCode (userId code : String) : Call Unit
  | redemptionCodes (userId : String) : Call (List RedemptionCode)
  | earnings (userId : String) : Call Earnings
  | cashOut (userId : String) (kind : CashOut) : Call Unit
  | signedUrl (kind : UploadKind) (key contentType : String) : Call String
  | signedUrls (kind : UploadKind) (files : List UploadFile) : Call (List String)

structure Endpoint (α : Type) where
  ask : Ask
  isForUser : Bool
  read : Reply → Outcome α

inductive Shape (α : Type) where
  | single (endpoint : Endpoint α)
  | joined (plans : Endpoint (List Plan)) (prices : Endpoint (List Price))
      (combine : List Plan → List Price → Outcome α)

-- What is asked for

def ofUser (userId : String) : String × String := ("userId", userId)

def ofLegacy (includeLegacy : Bool) : String × String :=
  ("includeLegacy", if includeLegacy then "true" else "false")

def ofPlanIds : Option (List String) → List (String × String)
  | some (id :: ids) => [("subscriptionPlanIds", ",".intercalate (id :: ids))]
  | _ => []

def ofPlatform : Platform → List (String × String)
  | .mobile => [("platform", "mobile")]
  | .desktop => []

namespace Ask

def get (path : String) (query : List (String × String)) : Ask := ⟨.get, path, query, none⟩

def post (path : String) (query : List (String × String)) (body : List (String × Tree)) : Ask :=
  ⟨.post, path, query, some (.object body)⟩

end Ask

def changeBody (planId : Option String) (options : ChangeOptions) : List (String × Tree) :=
  [("planId", optionTree .text planId), ("cancelImmediately", .bool options.cancelImmediately),
    ("cancelReasons", CancelReasons.codec.encode options.cancelReasons)]

-- How replies are read

def signedUrlCodec : Codec String :=
  .record "SignedUrlResponse" (.field "signedUrl" .text .required .nil)
    (fun (url, ()) => url) (fun url => (url, ()))

def signedUrlsCodec : Codec (List String) :=
  .record "SignedUrlsResponse" (.field "signedUrls" (.list .text) .required .nil)
    (fun (urls, ()) => urls) (fun urls => (urls, ()))

namespace Outcome

def andThen {α β : Type} (outcome : Outcome α) (next : α → Outcome β) : Outcome β :=
  match outcome.result with
  | .error failure => ⟨.error failure, outcome.warnings⟩
  | .ok value => ⟨(next value).result, outcome.warnings ++ (next value).warnings⟩

end Outcome

namespace Reply

/-- A price that the service does not know is no failure. -/
def priceIfKnown (reply : Reply) : Outcome (Option Price) :=
  match reply.record Price.codec with
  | .ok price => .quiet (.ok (some price))
  | .error failure =>
      if failure.isNotFound then ⟨.ok none, [.priceNotFound]⟩ else .fail failure

-- Only the first record of the list counts.
def earningsOf : Tree → Outcome Earnings
  | .list (first :: _) => .quiet (readable (Earnings.codec.ofTree first))
  | .list [] => .fail (.invalidResponse "No user earnings balance found")
  | _ => ⟨.error (.invalidResponse "Invalid response from the user earnings API"),
      [.earningsNotList]⟩

def portalUrlOf (tree : Tree) : Outcome String :=
  match ((tree.member? "sessionPortalUrl").bind Tree.text?).bind nonEmpty? with
  | some url => .quiet (.ok url)
  | none => ⟨.error (.invalidResponse "Could not find the session portal url."),
      [.portalWithoutUrl]⟩

end Reply

namespace Endpoint

variable {α : Type}

def ofRecord (ask : Ask) (isForUser : Bool) (codec : Codec α) : Endpoint α :=
  ⟨ask, isForUser, fun reply => .quiet (reply.record codec)⟩

def ofStatus (ask : Ask) (isForUser : Bool) : Endpoint Unit :=
  ⟨ask, isForUser, fun reply => .quiet reply.accept⟩

def ofTree (ask : Ask) (isForUser : Bool) (read : Tree → Outcome α) : Endpoint α :=
  ⟨ask, isForUser, fun reply => (Outcome.quiet reply.tree).andThen read⟩

def plans (includeLegacy : Bool) (userId : Option String) : Endpoint (List Plan) :=
  ofRecord (.get "/subscription-plan" (ofLegacy includeLegacy :: (userId.map ofUser).toList))
    userId.isSome (.list Plan.codec)

def prices (planIds : Option (List String)) (includeLegacy : Bool) (userId : Option String) :
    Endpoint (List Price) :=
  ofRecord
    (.get "/subscription-plan-pricing-system"
      (ofLegacy includeLegacy :: ofPlanIds planIds ++ (userId.map ofUser).toList))
    userId.isSome (.list Price.codec)

end Endpoint

namespace Call

/-- The requests of a call and how their replies are read. Only limits depend on the platform. -/
def shape (platform : Platform) : {α : Type} → Call α → Shape α
  | _, .plans includeLegacy userId => .single (.plans includeLegacy userId)
  | _, .price priceId =>
      .single
        ⟨.get ("/subscription-plan-pricing-system/" ++ priceId) [], false, Reply.priceIfKnown⟩
  | _, .prices planIds includeLegacy userId => .single (.prices planIds includeLegacy userId)
  | _, .catalog includeLegacy userId =>
      .joined (.plans includeLegacy userId) (.prices none includeLegacy userId)
        fun plans prices =>
          ⟨.ok (Catalog.join plans prices), Warning.ofOrphans (Catalog.orphans plans prices)⟩
  | _, .subscription userId =>
      .single (.ofRecord (.get "/subscription-v2" [ofUser userId]) true Subscription.codec)
  | _, .changeSubscription userId planId options =>
      .single (.ofRecord (.post "/subscription-v2" [ofUser userId] (changeBody planId options))
        true Subscription.codec)
  | _, .portalUrl userId =>
      .single (.ofTree (.post "/subscription-v2/action/redirect-to-portal" [ofUser userId] [])
        true Reply.portalUrlOf)
  | _, .limits userId =>
      .single (.ofRecord (.get "/limits" (ofUser userId :: ofPlatform platform)) true Limits.codec)
  | _, .usages userId =>
      .single (.ofRecord (.get "/usage" [ofUser userId]) true (.list Usage.codec))
  | _, .redeemCode userId code =>
      .single (.ofStatus (.post "/redemption-code/action/redeem-code" [ofUser userId]
        [("code", .text code)]) true)
  | _, .redemptionCodes userId =>
      .single (.ofRecord (.get "/redemption-code" [ofUser userId]) true
        (.list RedemptionCode.codec))
  | _, .earnings userId =>
      .single (.ofTree (.get "/user-earnings-balance" [ofUser userId]) true Reply.earningsOf)
  | _, .cashOut userId kind =>
      .single (.ofStatus (.post "/user-earnings-balance/action/cash-out" [ofUser userId]
        [("type", CashOut.codec.encode kind)]) true)
  | _, .signedUrl kind key contentType =>
      .single (.ofRecord (.post "/upload-options/signed-url" []
        [("uploadType", UploadKind.codec.encode kind), ("key", .text key),
          ("contentType", .text contentType)]) false signedUrlCodec)
  | _, .signedUrls kind files =>
      .single (.ofRecord (.post "/upload-options/signed-url" []
        [("uploadType", UploadKind.codec.encode kind),
          ("files", .list (files.map UploadFile.codec.encode))]) false signedUrlsCodec)

end Call

end Entitlement
