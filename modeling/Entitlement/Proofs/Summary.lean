import Mathlib.Data.List.Forall2
import Entitlement.Features
import Entitlement.Proofs.LocaleChoice
import Entitlement.Proofs.Lookup
import Entitlement.Proofs.Results

/-!
The summary of a plan in every language. Which features it has, and which switches and descriptions
their lines show, is decided before a language is chosen; the language only fills in the texts.
-/

namespace Entitlement

open Json Record

namespace Plan

def summaryFeatures (plan : Plan) : List PlanFeature :=
  plan.features.filter fun feature =>
    feature.displayInSummary = some true ∧ feature.featureName ∈ plan.featureNames.keys

def namedFeatures (plan : Plan) : List (PlanFeature × Localized) :=
  (plan.features.filter PlanFeature.isInSummary).filterMap fun feature =>
    (plan.featureNames.get? feature.featureName).map fun names => (feature, names)

end Plan

/-- A line shows a switch if and only if the feature has it set. -/
def OnlyIfSet (switch shown : Option Bool) : Prop :=
  (shown = some true ↔ switch = some true) ∧ ∀ value, shown = some value → value = true

structure Plan.LineOf (plan : Plan) (locale : String) (feature : PlanFeature)
    (line : FeatureLine) : Prop where
  named : ∃ names, plan.featureNames.get? feature.featureName = some names ∧
    (∀ text, names.select locale = some text → line.displayedName = text) ∧
    (names = .empty → line.displayedName = "")
  described : line.description =
    feature.description.bind fun description => description.select locale
  described_iff : line.description.isSome = true ↔
    ∃ description, feature.description = some description ∧ description ≠ .empty
  enabled : line.enabled = feature.enabled
  unlimited : OnlyIfSet feature.unlimited line.unlimited
  upcoming : OnlyIfSet feature.upcoming line.upcoming
  trialLike : OnlyIfSet feature.trialLike line.trialLike

namespace FeatureLine

structure SameButTexts (one other : FeatureLine) : Prop where
  described : one.description.isSome = other.description.isSome
  enabled : one.enabled = other.enabled
  unlimited : one.unlimited = other.unlimited
  upcoming : one.upcoming = other.upcoming
  trialLike : one.trialLike = other.trialLike

/-- What is written of a line are texts and switches that are on. -/
def WritesOnlySet (line : FeatureLine) : Prop :=
  ∃ members, codec.encode line = .object members ∧
    ∀ member ∈ members, (∃ text, member.2 = .text text) ∨ member.2 = .bool true

end FeatureLine

theorem ifSet_onlyIfSet (switch : Option Bool) : OnlyIfSet switch (ifSet switch) := by
  cases switch with
  | none => exact ⟨Iff.rfl, nofun⟩
  | some value => cases value <;> exact ⟨by decide, by decide⟩

theorem described_iff (description : Option Localized) (locale : String) :
    (description.bind fun description => description.select locale).isSome = true ↔
      ∃ held, description = some held ∧ held ≠ .empty := by
  cases description with
  | none => simp
  | some held =>
      rw [Option.bind_some, Option.isSome_iff_ne_none, ne_eq, Localized.select_none]
      simp

namespace Plan

theorem namedFeatures_features (plan : Plan) :
    plan.namedFeatures.map (·.1) = plan.summaryFeatures := by
  have kept : ∀ feature : PlanFeature,
      ((plan.featureNames.get? feature.featureName).map fun names => (feature, names)).map (·.1) =
        Option.guard (fun feature => decide (feature.featureName ∈ plan.featureNames.keys))
          feature := by
    intro feature
    by_cases named : feature.featureName ∈ plan.featureNames.keys
    · obtain ⟨names, held⟩ := Option.ne_none_iff_exists'.mp ((Dict.mem_keys _ _).mp named)
      simp [held, Option.guard, named]
    · have missing := not_not.mp (mt (Dict.mem_keys _ _).mpr named)
      simp [missing, Option.guard, named]
  rw [namedFeatures, List.map_filterMap, funext kept, List.filterMap_eq_filter, List.filter_filter,
    summaryFeatures]
  apply List.filter_congr
  intro feature _
  rw [Bool.eq_iff_iff]
  simp [PlanFeature.isInSummary, and_comm]

theorem namedFeatures_named (plan : Plan) (entry : PlanFeature × Localized)
    (listed : entry ∈ plan.namedFeatures) :
    plan.featureNames.get? entry.1.featureName = some entry.2 := by
  obtain ⟨feature, _, found⟩ := List.mem_filterMap.mp listed
  obtain ⟨names, held, rfl⟩ := Option.map_eq_some_iff.mp found
  exact held

end Plan

theorem featureLines_named (offer : Offer) (locale : String) :
    offer.featureLines locale =
      offer.plan.namedFeatures.map fun entry => entry.1.line locale entry.2 := by
  unfold Offer.featureLines Plan.namedFeatures
  rw [List.map_filterMap]
  simp only [Option.map_map]
  rfl

namespace PlanFeature

theorem line_shows (plan : Plan) (locale : String) (feature : PlanFeature) (names : Localized)
    (held : plan.featureNames.get? feature.featureName = some names) :
    plan.LineOf locale feature (feature.line locale names) where
  named := by
    refine ⟨names, held, fun text shown => ?_, fun empty => ?_⟩
    · rw [line, shown, Option.getD_some]
    · rw [line, Localized.select_none.mpr empty, Option.getD_none]
  described := rfl
  described_iff := described_iff feature.description locale
  enabled := rfl
  unlimited := ifSet_onlyIfSet feature.unlimited
  upcoming := ifSet_onlyIfSet feature.upcoming
  trialLike := ifSet_onlyIfSet feature.trialLike

theorem line_same (feature : PlanFeature) (one other : String) (names : Localized) :
    (feature.line one names).SameButTexts (feature.line other names) where
  described := by
    rw [Bool.eq_iff_iff]
    exact (described_iff feature.description one).trans
      (described_iff feature.description other).symm
  enabled := rfl
  unlimited := rfl
  upcoming := rfl
  trialLike := rfl

end PlanFeature

namespace FeatureLine

/-- What is written of a line: its name, and of the rest what is set. -/
theorem encode_line (line : FeatureLine) :
    codec.encode line = .object (("displayedFeatureName", .text line.displayedName) ::
      ((line.description.map fun text => ("description", .text text)).toList ++
      ((line.enabled.map fun held => ("enabled", .text held.name)).toList ++
      ((line.unlimited.map fun held => ("unlimited", .bool held)).toList ++
      ((line.upcoming.map fun held => ("upcoming", .bool held)).toList ++
      ((line.trialLike.map fun held => ("trialLike", .bool held)).toList ++ [])))))) := by
  obtain ⟨name, description, enabled, unlimited, upcoming, trialLike⟩ := line
  cases description <;> cases enabled <;> cases unlimited <;> cases upcoming <;>
    cases trialLike <;> rfl

theorem writes_only_set (line : FeatureLine)
    (unlimited : ∀ value, line.unlimited = some value → value = true)
    (upcoming : ∀ value, line.upcoming = some value → value = true)
    (trialLike : ∀ value, line.trialLike = some value → value = true) : line.WritesOnlySet := by
  have switch : ∀ (name : String) (shown : Option Bool),
      (∀ value, shown = some value → value = true) →
      ∀ member ∈ (shown.map fun held => (name, Tree.bool held)).toList,
        (∃ text, member.2 = .text text) ∨ member.2 = .bool true := by
    intro name shown set member present
    obtain ⟨value, held, rfl⟩ := Option.map_eq_some_iff.mp (Option.mem_toList.mp present)
    rw [set value held]
    exact .inr rfl
  refine ⟨_, encode_line line, fun member present => ?_⟩
  simp only [List.mem_cons, List.mem_append, List.not_mem_nil, or_false] at present
  rcases present with rfl | present | present | present | present | present
  · exact .inl ⟨_, rfl⟩
  · obtain ⟨text, _, rfl⟩ := Option.map_eq_some_iff.mp (Option.mem_toList.mp present)
    exact .inl ⟨_, rfl⟩
  · obtain ⟨held, _, rfl⟩ := Option.map_eq_some_iff.mp (Option.mem_toList.mp present)
    exact .inl ⟨_, rfl⟩
  · exact switch "unlimited" line.unlimited unlimited member present
  · exact switch "upcoming" line.upcoming upcoming member present
  · exact switch "trialLike" line.trialLike trialLike member present

end FeatureLine

structure Offer.Summarised (offer : Offer) (one other : String) : Prop where
  rows : List.Forall₂ (offer.plan.LineOf one) offer.plan.summaryFeatures (offer.featureLines one)
  otherRows : List.Forall₂ (offer.plan.LineOf other) offer.plan.summaryFeatures
    (offer.featureLines other)
  same_length : (offer.featureLines one).length = (offer.featureLines other).length
  aligned : List.Forall₂ FeatureLine.SameButTexts (offer.featureLines one)
    (offer.featureLines other)
  only_set : ∀ line ∈ offer.featureLines one, line.WritesOnlySet
  any_prices : ∀ prices, (offer.withPrices prices).featureLines one = offer.featureLines one

namespace Offer

theorem featureLines_rows (offer : Offer) (locale : String) :
    List.Forall₂ (offer.plan.LineOf locale) offer.plan.summaryFeatures
      (offer.featureLines locale) := by
  rw [featureLines_named, ← Plan.namedFeatures_features, List.forall₂_map_left_iff,
    List.forall₂_map_right_iff, List.forall₂_same]
  intro entry listed
  exact entry.1.line_shows offer.plan locale entry.2
    (offer.plan.namedFeatures_named entry listed)

theorem featureLines_aligned (offer : Offer) (one other : String) :
    List.Forall₂ FeatureLine.SameButTexts (offer.featureLines one) (offer.featureLines other) := by
  rw [featureLines_named, featureLines_named, List.forall₂_map_left_iff,
    List.forall₂_map_right_iff, List.forall₂_same]
  intro entry _
  exact entry.1.line_same one other entry.2

theorem featureLines_only_set (offer : Offer) (locale : String) (line : FeatureLine)
    (listed : line ∈ offer.featureLines locale) : line.WritesOnlySet := by
  obtain ⟨feature, _, shows⟩ := forall₂_right (offer.featureLines_rows locale) line listed
  exact line.writes_only_set shows.unlimited.2 shows.upcoming.2 shows.trialLike.2

/-- A summary has a line for each feature that is marked for it and named, and in every language
the lines show the same but for their texts. -/
theorem summaries_aligned (offer : Offer) (one other : String) : offer.Summarised one other where
  rows := offer.featureLines_rows one
  otherRows := offer.featureLines_rows other
  same_length := (offer.featureLines_aligned one other).length_eq
  aligned := offer.featureLines_aligned one other
  only_set := offer.featureLines_only_set one
  any_prices _ := rfl

def marked (name : String) (description : Option Localized) : PlanFeature :=
  ⟨name, "publish", description, none, some .yes, some true, some false, none, some true⟩

def lobbyOffer : Offer :=
  { plan :=
      { Plan.bare "P1" false with
        features := [marked "lobbies" (some (Localized.empty.insert "fr" "Salons")),
          marked "saves" none, marked "builds" (some .empty)]
        featureNames := (Dict.empty.insert "builds" Localized.empty).insert "lobbies"
          (Localized.empty.insert "en" "Lobbies") }
    prices := [] }

example : lobbyOffer.featureLines "fr_FR" =
    [⟨"Lobbies", some "Salons", some .yes, some true, none, none⟩,
      ⟨"", none, some .yes, some true, none, none⟩] := by
  decide

end Offer

end Entitlement
