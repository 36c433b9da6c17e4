import Entitlement.Proofs.Resolution

/-!
The same questions can be asked of a snapshot and of the subscription and the limits themselves.
Where a subscription comes from and what the limits allow is answered alike. What a plan grants is
answered for a plan that is valid at the instant of the snapshot; an upgrade is offered to whoever
may upgrade, and also to an account whose plan is not valid.
-/

namespace Entitlement

def BenefitsFromEducation (subscription : Option Subscription) : Prop :=
  ∃ held, subscription = some held ∧ held.educationBenefit = some true

def HasClassrooms (limits : Option Limits) : Prop :=
  ∃ held settings, limits = some held ∧ held.capabilities.classrooms = some settings

namespace Eligibility

-- An education plan is paid for by somebody else, so there is nothing to upgrade and no role.
theorem benefiting_has_neither (subscription : Option Subscription)
    (benefits : BenefitsFromEducation subscription) :
    canUpgradeSubscription subscription = false ∧
      canBenefitFromDiscordRole subscription = false := by
  obtain ⟨held, rfl, benefit⟩ := benefits
  have educated : held.benefitsFromEducationPlan = true :=
    held.benefitsFromEducationPlan_iff.mpr benefit
  constructor
  · simp [canUpgradeSubscription, Subscription.canUpgrade, educated]
  · simp [canBenefitFromDiscordRole, Subscription.canBenefitFromRole, educated]

theorem upgrade_unbenefiting (subscription : Option Subscription)
    (upgrade : canUpgradeSubscription subscription = true) :
    subscription.isSome = true ∧ ¬ BenefitsFromEducation subscription := by
  constructor
  · cases subscription with
    | none => cases upgrade
    | some held => rfl
  · intro benefits
    have refused := (benefiting_has_neither subscription benefits).1
    rw [upgrade] at refused
    cases refused

theorem classroom_one_of_two (limits : Option Limits) :
    ¬ (canUseClassroomFeature limits = true ∧ shouldHideClassroomTab limits = true) ∧
      ((canUseClassroomFeature limits = true ∨ shouldHideClassroomTab limits = true) ↔
        HasClassrooms limits) := by
  unfold canUseClassroomFeature shouldHideClassroomTab
  have given : HasClassrooms limits ↔ ∃ settings, classrooms? limits = some settings := by
    unfold HasClassrooms classrooms?
    cases limits with
    | none => simp
    | some held => simp
  rw [given]
  cases classrooms? limits with
  | none => simp
  | some settings => cases shown : settings.showClassroomTab <;> simp [shown]

end Eligibility

namespace Snapshot

/-- How the answers of a snapshot go with those that are given without one. -/
structure Gated (subscription : Option Subscription) (limits : Option Limits) (now : Int)
    (snapshot : Snapshot) : Prop where
  store : snapshot.hasMobileAppStoreSubscription =
    Eligibility.hasMobileAppStoreSubscription subscription
  manual : snapshot.wasManuallyAdded = Eligibility.wasManuallyAdded subscription
  team : snapshot.isComingFromTeam = Eligibility.isComingFromTeam subscription
  classroom : snapshot.canUseClassroomFeature = Eligibility.canUseClassroomFeature limits
  hidden : snapshot.shouldHideClassroomTab = Eligibility.shouldHideClassroomTab limits
  history : snapshot.canUseCloudProjectHistory = Eligibility.canUseCloudProjectHistory limits
  role_iff : snapshot.canBenefitFromDiscordRole = true ↔
    Eligibility.hasValidSubscriptionPlan subscription now = true ∧
      Eligibility.canBenefitFromDiscordRole subscription = true
  upgrade_iff : snapshot.canUpgrade = true ↔
    Eligibility.canUpgradeSubscription subscription = true ∨
      (Eligibility.hasValidSubscriptionPlan subscription now = false ∧
        subscription.isSome = true ∧ ¬ BenefitsFromEducation subscription)
  upgrade_kept : Eligibility.canUpgradeSubscription subscription = true →
    snapshot.canUpgrade = true
  benefiting : BenefitsFromEducation subscription →
    snapshot.canUpgrade = false ∧ snapshot.canBenefitFromDiscordRole = false ∧
      Eligibility.canUpgradeSubscription subscription = false ∧
      Eligibility.canBenefitFromDiscordRole subscription = false
  never_both : ¬ (snapshot.canUseClassroomFeature = true ∧ snapshot.shouldHideClassroomTab = true)
  one_iff : (snapshot.canUseClassroomFeature = true ∨ snapshot.shouldHideClassroomTab = true) ↔
    HasClassrooms limits

theorem lapsed_upgrade_iff (subscription : Option Subscription) (limits : Option Limits) :
    (lapsed subscription limits).canUpgrade = true ↔
      subscription.isSome = true ∧ ¬ BenefitsFromEducation subscription := by
  cases subscription with
  | none => simp [lapsed]
  | some held =>
      have educated : BenefitsFromEducation (some held) ↔
          held.benefitsFromEducationPlan = true := by
        rw [Subscription.benefitsFromEducationPlan_iff]
        simp [BenefitsFromEducation]
      simp [lapsed, educated]

theorem resolve_role_iff (catalog : Catalog) (subscription : Option Subscription)
    (limits : Option Limits) (now : Int) :
    (resolve catalog subscription limits now).canBenefitFromDiscordRole = true ↔
      Eligibility.hasValidSubscriptionPlan subscription now = true ∧
        Eligibility.canBenefitFromDiscordRole subscription = true := by
  rcases resolve_cases catalog subscription limits now with
    ⟨held, rfl, valid, granting⟩ | ⟨invalid, lapsing⟩
  · rw [granting]
    simp [granted, Eligibility.hasValidSubscriptionPlan, Eligibility.canBenefitFromDiscordRole,
      valid]
  · rw [lapsing, invalid]
    simp [lapsed]

theorem resolve_upgrade_iff (catalog : Catalog) (subscription : Option Subscription)
    (limits : Option Limits) (now : Int) :
    (resolve catalog subscription limits now).canUpgrade = true ↔
      Eligibility.canUpgradeSubscription subscription = true ∨
        (Eligibility.hasValidSubscriptionPlan subscription now = false ∧
          subscription.isSome = true ∧ ¬ BenefitsFromEducation subscription) := by
  rcases resolve_cases catalog subscription limits now with
    ⟨held, rfl, valid, granting⟩ | ⟨invalid, lapsing⟩
  · have isValid : Eligibility.hasValidSubscriptionPlan (some held) now = true := valid
    rw [granting, isValid]
    simp [granted, Eligibility.canUpgradeSubscription]
  · rw [lapsing, lapsed_upgrade_iff, invalid]
    constructor
    · intro offered
      exact Or.inr ⟨rfl, offered⟩
    · rintro (upgrade | ⟨_, offered⟩)
      · exact Eligibility.upgrade_unbenefiting subscription upgrade
      · exact offered

/-- Whatever the catalog and the instant, a snapshot answers as the subscription and the limits do,
except that a role needs a valid plan and that an account without a valid plan is offered an
upgrade. -/
theorem resolve_gated (catalog : Catalog) (subscription : Option Subscription)
    (limits : Option Limits) (now : Int) :
    Gated subscription limits now (resolve catalog subscription limits now) := by
  have upgrade := resolve_upgrade_iff catalog subscription limits now
  have role := resolve_role_iff catalog subscription limits now
  obtain ⟨neverBoth, oneIff⟩ := Eligibility.classroom_one_of_two limits
  refine {
    store := rfl
    manual := rfl
    team := rfl
    classroom := rfl
    hidden := rfl
    history := rfl
    role_iff := role
    upgrade_iff := upgrade
    upgrade_kept := fun offered => upgrade.mpr (Or.inl offered)
    benefiting := ?benefiting
    never_both := neverBoth
    one_iff := oneIff }
  case benefiting =>
    intro benefits
    obtain ⟨noUpgrade, noRole⟩ := Eligibility.benefiting_has_neither subscription benefits
    refine ⟨?noOffer, ?noClaim, noUpgrade, noRole⟩
    case noOffer =>
      rw [Bool.eq_false_iff, ne_eq, upgrade, noUpgrade]
      rintro (absurdity | ⟨_, _, spared⟩)
      · cases absurdity
      · exact spared benefits
    case noClaim =>
      rw [Bool.eq_false_iff, ne_eq, role, noRole]
      rintro ⟨_, absurdity⟩
      cases absurdity

end Snapshot

end Entitlement
