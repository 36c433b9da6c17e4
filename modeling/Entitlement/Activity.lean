import Entitlement.Money
import Entitlement.Record.Codec

/-!
Records of what an account has done and earned: usages, earnings, redemption codes and the files it
uploads.
-/

namespace Entitlement

open Record

structure Usage where
  id : String
  userId : String
  kind : String
  createdAt : Int64
  deriving DecidableEq, Repr

structure Earnings where
  userId : String
  amountInMilliUsd : Int64
  amountInCredits : Int64
  leastCashOutInMilliUsd : Int64
  updatedAt : Int64
  deriving DecidableEq, Repr

inductive CashOut where
  | cash
  | credits
  deriving DecidableEq, Repr

structure RedemptionCode where
  code : String
  planId : Option String
  durationInDays : UInt32
  maxUsageCount : UInt32
  remainingUsageCount : UInt32
  madeBy : String
  madeFor : Option String
  ownerId : Option String
  createdAt : Int64
  updatedAt : Int64
  deriving DecidableEq, Repr

inductive UploadKind where
  | build
  | preview
  deriving DecidableEq, Repr

structure UploadFile where
  key : String
  contentType : String
  deriving DecidableEq, Repr

def Usage.codec : Codec Usage :=
  .record "Usage"
    (.field "id" .text .required <|
      .field "userId" .text .required <|
      .field "type" .text .required <|
      .field "createdAt" .int64 .required .nil)
    (fun (id, user, kind, created, ()) => ⟨id, user, kind, created⟩)
    (fun usage => (usage.id, usage.userId, usage.kind, usage.createdAt, ()))

namespace Earnings

def codec : Codec Earnings :=
  .record "UserEarningsBalance"
    (.field "userId" .text .required <|
      .field "amountInMilliUSDs" .int64 .required <|
      .field "amountInCredits" .int64 .required <|
      .field "minAmountToCashoutInMilliUSDs" .int64 .required <|
      .field "updatedAt" .int64 .required .nil)
    (fun (user, amount, credits, least, updated, ()) => ⟨user, amount, credits, least, updated⟩)
    (fun e => (e.userId, e.amountInMilliUsd, e.amountInCredits, e.leastCashOutInMilliUsd,
      e.updatedAt, ()))

def amountInUsd (earnings : Earnings) : Money := ⟨earnings.amountInMilliUsd.toInt, 3⟩

def canCashOut (earnings : Earnings) : Bool :=
  earnings.leastCashOutInMilliUsd ≤ earnings.amountInMilliUsd

end Earnings

namespace CashOut

def all : List CashOut := [.cash, .credits]

def name : CashOut → String
  | .cash => "cash"
  | .credits => "credits"

def codec : Codec CashOut := .choice all name

end CashOut

namespace RedemptionCode

def codec : Codec RedemptionCode :=
  .record "RedemptionCode"
    (.field "code" .text .required <|
      .field "givenSubscriptionPlanId" (.option .text) .nullable <|
      .field "durationInDays" .uint32 .required <|
      .field "maxUsageCount" .uint32 .required <|
      .field "remainingUsageCount" .uint32 .required <|
      .field "madeBy" .text .required <|
      .field "madeFor" (.option .text) .nullable <|
      .field "ownerId" (.option .text) .optional <|
      .field "createdAt" .int64 .required <|
      .field "updatedAt" .int64 .required .nil)
    (fun (code, plan, days, most, remaining, madeBy, madeFor, owner, created, updated, ()) =>
      ⟨code, plan, days, most, remaining, madeBy, madeFor, owner, created, updated⟩)
    (fun c => (c.code, c.planId, c.durationInDays, c.maxUsageCount, c.remainingUsageCount,
      c.madeBy, c.madeFor, c.ownerId, c.createdAt, c.updatedAt, ()))

def isExhausted (code : RedemptionCode) : Bool := code.remainingUsageCount == 0

end RedemptionCode

namespace UploadKind

def all : List UploadKind := [.build, .preview]

def name : UploadKind → String
  | .build => "build"
  | .preview => "preview"

def codec : Codec UploadKind := .choice all name

end UploadKind

def UploadFile.codec : Codec UploadFile :=
  .record "UploadFile"
    (.field "key" .text .required <|
      .field "contentType" .text .required .nil)
    (fun (key, contentType, ()) => ⟨key, contentType⟩)
    (fun file => (file.key, file.contentType, ()))

end Entitlement
