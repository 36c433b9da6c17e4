import Entitlement.Record.Codec

/-!
The subscription of an account. An empty plan id or price id counts as none.
-/

namespace Entitlement

open Record

inductive CancelReason where
  | checked (value : Bool)
  | text (value : String)
  deriving DecidableEq, Repr

abbrev CancelReasons := Dict CancelReason

/-- Times are milliseconds since 1970. -/
structure Subscription where
  userId : String
  planIdField : Option String
  createdAt : Int64
  updatedAt : Int64
  priceIdField : Option String
  stripeSubscriptionId : Option String
  stripeCustomerId : Option String
  paypalSubscriptionId : Option String
  paypalPayerId : Option String
  purchaselyPlan : Option String
  cancelAtPeriodEnd : Option Bool
  cancelReasons : Option CancelReasons
  redemptionCode : Option String
  redemptionCodeValidUntil : Option Int64
  educationBenefit : Option Bool
  isTeacher : Option Bool
  deriving DecidableEq

namespace CancelReason

def codec : Codec CancelReason :=
  .via (.boolOrText "CancelReason")
    (fun reason => match reason with
      | .inl value => .checked value
      | .inr value => .text value)
    (fun reason => match reason with
      | .checked value => .inl value
      | .text value => .inr value)

end CancelReason

namespace CancelReasons

def codec : Codec CancelReasons := .dict CancelReason.codec

end CancelReasons

def nonEmpty? (text : String) : Option String := if text = "" then none else some text

namespace Subscription

def codec : Codec Subscription :=
  .record "Subscription"
    (.field "userId" .text .required <|
      .field "planId" (.option .text) .nullable <|
      .field "createdAt" .int64 .required <|
      .field "updatedAt" .int64 .required <|
      .field "pricingSystemId" (.option .text) .nullable <|
      .field "stripeSubscriptionId" (.option .text) .optional <|
      .field "stripeCustomerId" (.option .text) .optional <|
      .field "paypalSubscriptionId" (.option .text) .optional <|
      .field "paypalPayerId" (.option .text) .optional <|
      .field "purchaselyPlan" (.option .text) .optional <|
      .field "cancelAtPeriodEnd" (.option .bool) .optional <|
      .field "cancelReasons" (.option CancelReasons.codec) .optional <|
      .field "redemptionCode" (.option .text) .optional <|
      .field "redemptionCodeValidUntil" (.option .int64) .optional <|
      .field "benefitsFromEducationPlan" (.option .bool) .optional <|
      .field "isTeacher" (.option .bool) .optional .nil)
    (fun (user, plan, created, updated, price, stripe, customer, paypal, payer, store, atEnd,
        reasons, code, validUntil, education, teacher, ()) =>
      ⟨user, plan, created, updated, price, stripe, customer, paypal, payer, store, atEnd,
        reasons, code, validUntil, education, teacher⟩)
    (fun s => (s.userId, s.planIdField, s.createdAt, s.updatedAt, s.priceIdField,
      s.stripeSubscriptionId, s.stripeCustomerId, s.paypalSubscriptionId, s.paypalPayerId,
      s.purchaselyPlan, s.cancelAtPeriodEnd, s.cancelReasons, s.redemptionCode,
      s.redemptionCodeValidUntil, s.educationBenefit, s.isTeacher, ()))

def planId (subscription : Subscription) : Option String :=
  subscription.planIdField.bind nonEmpty?

def priceId (subscription : Subscription) : Option String :=
  subscription.priceIdField.bind nonEmpty?

def benefitsFromEducationPlan (subscription : Subscription) : Bool :=
  subscription.educationBenefit.getD false

end Subscription

end Entitlement
