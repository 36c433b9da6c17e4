import Entitlement.Activity
import Entitlement.Features
import Entitlement.Limits
import Entitlement.Proofs.Normalisation
import Entitlement.Proofs.Tolerance
import Entitlement.Snapshot
import Entitlement.Subscription

/-!
The record types of the wire format. Each is written by a lawful codec, so reading undoes writing,
and writing what was read only normalises.
-/

namespace Entitlement

open Json Record

-- Parts of records

theorem Localized.codec_lawful : Localized.codec.Lawful :=
  .via (.dict .text) (fun _ => rfl) (fun _ => rfl)

theorem BillingPeriod.codec_lawful : BillingPeriod.codec.Lawful :=
  .choice fun period => by cases period <;> rfl

theorem Currency.codec_lawful : Currency.codec.Lawful :=
  .choice fun currency => by cases currency <;> rfl

theorem PriceStatus.codec_lawful : PriceStatus.codec.Lawful :=
  .choice fun status => by cases status <;> rfl

theorem Audience.codec_lawful : Audience.codec.Lawful :=
  .choice fun audience => by cases audience <;> rfl

theorem Availability.codec_lawful : Availability.codec.Lawful :=
  .choice fun availability => by cases availability <;> rfl

theorem CancelReason.codec_lawful : CancelReason.codec.Lawful :=
  .via (.boolOrText _) (fun reason => by cases reason <;> rfl) (fun form => by cases form <;> rfl)

theorem QuotaPeriod.codec_lawful : QuotaPeriod.codec.Lawful :=
  .choice fun period => by cases period <;> rfl

theorem ThemeCustomization.codec_lawful : ThemeCustomization.codec.Lawful :=
  .choice fun theme => by cases theme <;> rfl

theorem Origin.codec_lawful : Origin.codec.Lawful :=
  .choice fun origin => by cases origin <;> rfl

theorem CashOut.codec_lawful : CashOut.codec.Lawful :=
  .choice fun way => by cases way <;> rfl

theorem UploadKind.codec_lawful : UploadKind.codec.Lawful :=
  .choice fun kind => by cases kind <;> rfl

-- Plans

theorem Price.codec_lawful : Price.codec.Lawful :=
  .record
    (.required .text rfl <| .required .text rfl <| .required BillingPeriod.codec_lawful rfl <|
      .optional .bool rfl <| .required Currency.codec_lawful rfl <| .required .text rfl <|
      .required PriceStatus.codec_lawful rfl <| .required .int64 rfl <| .required .uint32 rfl .nil)
    (by decide) (fun _ => rfl) (fun _ => rfl)

theorem PlanFeature.codec_lawful : PlanFeature.codec.Lawful :=
  .record
    (.required .text rfl <| .required .text rfl <| .optional Localized.codec_lawful rfl <|
      .optional Localized.codec_lawful rfl <| .optional Availability.codec_lawful rfl <|
      .optional .bool rfl <| .optional .bool rfl <| .optional .bool rfl <|
      .optional .bool rfl .nil)
    (by decide) (fun _ => rfl) (fun _ => rfl)

theorem Plan.fields_lawful : Plan.fields.Lawful :=
  .required .text rfl <| .required .bool rfl <| .required Localized.codec_lawful rfl <|
    .required Localized.codec_lawful rfl <| .emptyList Localized.codec_lawful <|
    .optional Localized.codec_lawful rfl <| .emptyList Audience.codec_lawful <|
    .emptyList PlanFeature.codec_lawful <| .emptyDict Localized.codec_lawful <|
    .emptyDict Localized.codec_lawful .nil

theorem Plan.codec_lawful : Plan.codec.Lawful :=
  .record Plan.fields_lawful (by decide) (fun _ => rfl) (fun _ => rfl)

theorem Offer.codec_lawful : Offer.codec.Lawful :=
  .flattened (.required (.list Price.codec_lawful) rfl .nil) Plan.fields_lawful (by decide)
    (fun _ => rfl) (fun _ _ => rfl)

theorem FeatureLine.codec_lawful : FeatureLine.codec.Lawful :=
  .record
    (.required .text rfl <| .optional .text rfl <| .optional Availability.codec_lawful rfl <|
      .optional .bool rfl <| .optional .bool rfl <| .optional .bool rfl .nil)
    (by decide) (fun _ => rfl) (fun _ => rfl)

-- Accounts

theorem Subscription.codec_lawful : Subscription.codec.Lawful :=
  .record
    (.required .text rfl <| .nullable .text rfl <| .required .int64 rfl <| .required .int64 rfl <|
      .nullable .text rfl <| .optional .text rfl <| .optional .text rfl <| .optional .text rfl <|
      .optional .text rfl <| .optional .text rfl <| .optional .bool rfl <|
      .optional (.dict CancelReason.codec_lawful) rfl <| .optional .text rfl <|
      .optional .int64 rfl <| .optional .bool rfl <| .optional .bool rfl .nil)
    (by decide) (fun _ => rfl) (fun _ => rfl)

theorem Snapshot.codec_lawful : Snapshot.codec.Lawful :=
  .record
    (.required .bool rfl <| .nullable .text rfl <| .required Origin.codec_lawful rfl <|
      .nullable Offer.codec_lawful rfl <| .nullable Price.codec_lawful rfl <|
      .nullable Offer.codec_lawful rfl <| .required .bool rfl <| .required .bool rfl <|
      .required .bool rfl <| .required .bool rfl <| .required .bool rfl <| .required .bool rfl <|
      .required .bool rfl <| .required .bool rfl <| .required .bool rfl .nil)
    (by decide) (fun _ => rfl) (fun _ => rfl)

-- Limits

theorem Quota.codec_lawful : Quota.codec.Lawful :=
  .record
    (.required .bool rfl <| .required .int64 rfl <| .required .int64 rfl <|
      .optional QuotaPeriod.codec_lawful rfl .nil)
    (by decide) (fun _ => rfl) (fun _ => rfl)

theorem Analytics.codec_lawful : Analytics.codec.Lawful :=
  .record
    (.required .bool rfl <| .required .bool rfl <| .required .bool rfl <| .required .bool rfl <|
      .required .bool rfl .nil)
    (by decide) (fun _ => rfl) (fun _ => rfl)

theorem CloudProjects.codec_lawful : CloudProjects.codec.Lawful :=
  .record (.required .int64 rfl <| .required .bool rfl <| .required .int64 rfl .nil)
    (by decide) (fun _ => rfl) (fun _ => rfl)

theorem Leaderboards.codec_lawful : Leaderboards.codec.Lawful :=
  .record
    (.required .int64 rfl <| .required .bool rfl <| .required ThemeCustomization.codec_lawful rfl <|
      .required .bool rfl <| .required .bool rfl .nil)
    (by decide) (fun _ => rfl) (fun _ => rfl)

theorem PrivateTutorials.codec_lawful : PrivateTutorials.codec.Lawful :=
  .record (.required (.list .text) rfl .nil) (by decide) (fun _ => rfl) (fun _ => rfl)

theorem Classrooms.codec_lawful : Classrooms.codec.Lawful :=
  .record
    (.required .bool rfl <| .required .bool rfl <| .required .bool rfl <| .required .bool rfl <|
      .required .bool rfl <| .required .bool rfl <| .required .bool rfl .nil)
    (by decide) (fun _ => rfl) (fun _ => rfl)

theorem Multiplayer.codec_lawful : Multiplayer.codec.Lawful :=
  .record
    (.required .int64 rfl <| .required .int64 rfl <|
      .required ThemeCustomization.codec_lawful rfl .nil)
    (by decide) (fun _ => rfl) (fun _ => rfl)

theorem VersionHistory.codec_lawful : VersionHistory.codec.Lawful :=
  .record (.required .bool rfl .nil) (by decide) (fun _ => rfl) (fun _ => rfl)

theorem Capabilities.codec_lawful : Capabilities.codec.Lawful :=
  .record
    (.required Analytics.codec_lawful rfl <| .required CloudProjects.codec_lawful rfl <|
      .required Leaderboards.codec_lawful rfl <| .optional PrivateTutorials.codec_lawful rfl <|
      .optional Classrooms.codec_lawful rfl <| .required Multiplayer.codec_lawful rfl <|
      .required VersionHistory.codec_lawful rfl .nil)
    (by decide) (fun _ => rfl) (fun _ => rfl)

theorem VariablePrice.codec_lawful : VariablePrice.codec.Lawful :=
  .record (.required .int64 rfl <| .required .int64 rfl .nil)
    (by decide) (fun _ => rfl) (fun _ => rfl)

theorem UsagePrice.codec_lawful : UsagePrice.codec.Lawful :=
  .record (.required .int64 rfl <| .optional (.dict (.dict VariablePrice.codec_lawful)) rfl .nil)
    (by decide) (fun _ => rfl) (fun _ => rfl)

theorem PurchasableQuantity.codec_lawful : PurchasableQuantity.codec.Lawful :=
  .record (.required .int64 rfl .nil) (by decide) (fun _ => rfl) (fun _ => rfl)

theorem UserBalance.codec_lawful : UserBalance.codec.Lawful :=
  .record (.required .int64 rfl .nil) (by decide) (fun _ => rfl) (fun _ => rfl)

theorem Credits.codec_lawful : Credits.codec.Lawful :=
  .record
    (.required UserBalance.codec_lawful rfl <| .emptyDict UsagePrice.codec_lawful <|
      .emptyDict PurchasableQuantity.codec_lawful .nil)
    (by decide) (fun _ => rfl) (fun _ => rfl)

theorem Limits.codec_lawful : Limits.codec.Lawful :=
  .record
    (.emptyDict Quota.codec_lawful <| .required Capabilities.codec_lawful rfl <|
      .required Credits.codec_lawful rfl <| .optional .text rfl .nil)
    (by decide) (fun _ => rfl) (fun _ => rfl)

-- Activity

theorem Usage.codec_lawful : Usage.codec.Lawful :=
  .record
    (.required .text rfl <| .required .text rfl <| .required .text rfl <|
      .required .int64 rfl .nil)
    (by decide) (fun _ => rfl) (fun _ => rfl)

theorem Earnings.codec_lawful : Earnings.codec.Lawful :=
  .record
    (.required .text rfl <| .required .int64 rfl <| .required .int64 rfl <| .required .int64 rfl <|
      .required .int64 rfl .nil)
    (by decide) (fun _ => rfl) (fun _ => rfl)

theorem RedemptionCode.codec_lawful : RedemptionCode.codec.Lawful :=
  .record
    (.required .text rfl <| .nullable .text rfl <| .required .uint32 rfl <| .required .uint32 rfl <|
      .required .uint32 rfl <| .required .text rfl <| .nullable .text rfl <| .optional .text rfl <|
      .required .int64 rfl <| .required .int64 rfl .nil)
    (by decide) (fun _ => rfl) (fun _ => rfl)

theorem UploadFile.codec_lawful : UploadFile.codec.Lawful :=
  .record (.required .text rfl <| .required .text rfl .nil)
    (by decide) (fun _ => rfl) (fun _ => rfl)

inductive WireType where
  | localized
  | price
  | planFeature
  | plan
  | offer
  | subscription
  | limits
  | quota
  | capabilities
  | credits
  | usage
  | earnings
  | redemptionCode
  | cashOut
  | uploadKind
  | uploadFile
  | featureLine
  | snapshot
  deriving DecidableEq

namespace WireType

def Value : WireType → Type
  | .localized => Localized
  | .price => Price
  | .planFeature => PlanFeature
  | .plan => Plan
  | .offer => Offer
  | .subscription => Subscription
  | .limits => Limits
  | .quota => Quota
  | .capabilities => Capabilities
  | .credits => Credits
  | .usage => Usage
  | .earnings => Earnings
  | .redemptionCode => RedemptionCode
  | .cashOut => CashOut
  | .uploadKind => UploadKind
  | .uploadFile => UploadFile
  | .featureLine => FeatureLine
  | .snapshot => Snapshot

def codec : (type : WireType) → Codec type.Value
  | .localized => Localized.codec
  | .price => Price.codec
  | .planFeature => PlanFeature.codec
  | .plan => Plan.codec
  | .offer => Offer.codec
  | .subscription => Subscription.codec
  | .limits => Limits.codec
  | .quota => Quota.codec
  | .capabilities => Capabilities.codec
  | .credits => Credits.codec
  | .usage => Usage.codec
  | .earnings => Earnings.codec
  | .redemptionCode => RedemptionCode.codec
  | .cashOut => CashOut.codec
  | .uploadKind => UploadKind.codec
  | .uploadFile => UploadFile.codec
  | .featureLine => FeatureLine.codec
  | .snapshot => Snapshot.codec

theorem codec_lawful : (type : WireType) → type.codec.Lawful
  | .localized => Localized.codec_lawful
  | .price => Price.codec_lawful
  | .planFeature => PlanFeature.codec_lawful
  | .plan => Plan.codec_lawful
  | .offer => Offer.codec_lawful
  | .subscription => Subscription.codec_lawful
  | .limits => Limits.codec_lawful
  | .quota => Quota.codec_lawful
  | .capabilities => Capabilities.codec_lawful
  | .credits => Credits.codec_lawful
  | .usage => Usage.codec_lawful
  | .earnings => Earnings.codec_lawful
  | .redemptionCode => RedemptionCode.codec_lawful
  | .cashOut => CashOut.codec_lawful
  | .uploadKind => UploadKind.codec_lawful
  | .uploadFile => UploadFile.codec_lawful
  | .featureLine => FeatureLine.codec_lawful
  | .snapshot => Snapshot.codec_lawful

/-- Reading the tree of a value gives the value back. -/
theorem ofTree_encode (type : WireType) (value : type.Value) :
    type.codec.ofTree (type.codec.encode value) = .ok value :=
  Codec.decode_encode Source.tree_reads type.codec_lawful value

/-- The members that are always written, and what they are when there is nothing to say. -/
def filled : WireType → List (String × Tree)
  | .plan | .offer =>
      [("bulletPointsByLocale", .list []), ("targetAudiences", .list []),
        ("fullFeatures", .list []), ("pillarNamesPerLocale", .object []),
        ("featureNamesByLocale", .object [])]
  | .subscription => [("planId", .null), ("pricingSystemId", .null)]
  | .limits => [("quotas", .object [])]
  | .credits => [("prices", .object []), ("purchasableQuantities", .object [])]
  | .redemptionCode => [("givenSubscriptionPlanId", .null), ("madeFor", .null)]
  | .snapshot =>
      [("plan_id", .null), ("plan", .null), ("pricing_system", .null), ("legacy_plan", .null)]
  | _ => []

def skipped : WireType → List String
  | .price => ["isPerUser"]
  | .planFeature =>
      ["descriptionByLocale", "tooltipByLocale", "enabled", "unlimited", "upcoming", "trialLike",
        "displayInSummary"]
  | .plan | .offer => ["specificRequirementByLocale"]
  | .featureLine => ["description", "enabled", "unlimited", "upcoming", "trialLike"]
  | .subscription =>
      ["stripeSubscriptionId", "stripeCustomerId", "paypalSubscriptionId", "paypalPayerId",
        "purchaselyPlan", "cancelAtPeriodEnd", "cancelReasons", "redemptionCode",
        "redemptionCodeValidUntil", "benefitsFromEducationPlan", "isTeacher"]
  | .quota => ["period"]
  | .capabilities => ["privateTutorials", "classrooms"]
  | .limits => ["message"]
  | .redemptionCode => ["ownerId"]
  | _ => []

theorem codec_added (type : WireType) : type.codec.added [] = type.filled := by
  cases type <;> rfl

theorem codec_skipped (type : WireType) : type.codec.skipped = type.skipped := by
  cases type <;> rfl

/-- What reading and writing do to a tree. `normal` removes the members without a field and those
that are null where an unset field is skipped, and adds the missing members of `filled`. -/
structure Normalises (type : WireType) : Prop where
  written : ∀ (tree : Tree) (value : type.Value), type.codec.isPlain tree.canonical →
    type.codec.ofTree tree = .ok value →
      (type.codec.encode value).canonical = type.codec.normal tree.canonical
  removed : type.codec.skipped = type.skipped
  added : ∀ members, type.codec.added members =
    type.filled.filter fun member => (memberOf member.1 members).isNone
  unseen : ∀ tree grown : Tree, type.codec.Grows tree grown →
    type.codec.ofTree grown = type.codec.ofTree tree

theorem normalises (type : WireType) : type.Normalises where
  written tree value plain read :=
    Codec.encode_decode Source.tree_reads type.codec_lawful tree.canonical
      (Tree.canonical_sorted tree) plain value read
  removed := type.codec_skipped
  added members := by rw [added_filter, type.codec_added]
  unseen tree grown grows :=
    grows.unseen type.codec_lawful Source.tree Source.tree_reads

def planByPhone : Tree :=
  .object [("userId", .text "ada"), ("planId", .text "gold"), ("note", .text "by phone"),
    ("isTeacher", .null), ("createdAt", .int 1), ("updatedAt", .int 2)]

theorem planByPhone_normalised :
    ∃ value, Subscription.codec.ofTree planByPhone = .ok value ∧
      (Subscription.codec.encode value).canonical =
        .object [("createdAt", .int 1), ("planId", .text "gold"), ("pricingSystemId", .null),
          ("updatedAt", .int 2), ("userId", .text "ada")] :=
  ⟨_, rfl, (normalises .subscription).written planByPhone _ rfl rfl⟩

end WireType

end Entitlement
