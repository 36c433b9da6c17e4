import Mathlib.Data.List.Nodup
import Entitlement.Report
import Entitlement.Proofs.Dependence
import Entitlement.Proofs.Narrowing

/-!
The cards of a report. What can be bought is the same for everyone. What is shown of the account is
the legacy plan it is still billed for, at the one price it pays.
-/

namespace Entitlement

namespace Report

def offerCard (locale : String) (offer : Offer) : Card :=
  { id := offer.id
    name := offer.plan.name.select locale
    prices := (offer.prices.filter Price.isActive).map fun price =>
      { id := price.id
        amount := ⟨price.amountInCents.toInt, 2⟩
        currency := price.currency
        period := price.period
        periodCount := price.periodCount }
    features := offer.featureLines locale }

theorem available_cards (catalog : Catalog) (subscription : Subscription) (limits : Limits)
    (locale : String) (now : Int) :
    (build catalog subscription limits locale now).availablePlans =
      (catalog.filter fun offer => offer.isLegacy = false ∧ offer.OnSale).map
        (offerCard locale) := by
  show (catalog.available.filter fun offer => !offer.isLegacy).map (fun offer => offer.card locale)
    = _
  rw [Catalog.available_eq, List.filter_map, List.filter_filter, List.map_map]
  congr 1
  apply List.filter_congr
  intro offer _
  have sameKind : (offer.keeping Price.isActive).isLegacy = offer.isLegacy := rfl
  simp [sameKind]

theorem legacy_card (catalog : Catalog) (subscription : Subscription) (limits : Limits)
    (locale : String) (now : Int) (card : Card)
    (shown : (build catalog subscription limits locale now).legacyPlan = some card) :
    ∃ offer price, BilledFor catalog subscription offer price ∧ card.id = offer.id ∧
      card.prices = [price.line] := by
  obtain ⟨legacy, present, rfl⟩ := Option.map_eq_some_iff.mp shown
  obtain ⟨_, billed⟩ :=
    (Snapshot.resolve_legacyPlan_some catalog subscription (some limits) now legacy).mp present
  obtain ⟨offer, price, billedFor, rfl⟩ :=
    (Catalog.legacyOffer?_some catalog subscription legacy).mp billed
  exact ⟨offer, price, billedFor, rfl, rfl⟩

theorem legacy_apart (catalog : Catalog) (subscription : Subscription) (limits : Limits)
    (locale : String) (now : Int) (distinct : (catalog.map Offer.id).Nodup) (card : Card)
    (shown : (build catalog subscription limits locale now).legacyPlan = some card) :
    card.id ∉ (build catalog subscription limits locale now).availablePlans.map Card.id := by
  obtain ⟨legacy, _, ⟨_, _, _, _, firstPlan, isLegacy, _⟩, sameId, _⟩ :=
    legacy_card catalog subscription limits locale now card shown
  rw [available_cards, List.map_map, List.mem_map]
  rintro ⟨offer, offered, offeredId⟩
  obtain ⟨member, kept⟩ := List.mem_filter.mp offered
  obtain ⟨current, _⟩ := of_decide_eq_true kept
  have same : offer = legacy :=
    List.inj_on_of_nodup_map distinct member (first_mem firstPlan) (offeredId.trans sameId)
  rw [same, isLegacy] at current
  cases current

/-- What a report shows of the catalog and of the account. -/
structure Shows (catalog : Catalog) (subscription : Subscription) (limits : Limits)
    (locale : String) (now : Int) (report : Report) : Prop where
  entitlement_resolved : report.entitlement =
    Snapshot.resolve catalog (some subscription) (some limits) now
  offered : report.availablePlans =
    (catalog.filter fun offer => offer.isLegacy = false ∧ offer.OnSale).map (offerCard locale)
  legacy_iff : report.legacyPlan.isSome = true ↔ report.entitlement.legacyPlan.isSome = true
  legacy_priced : ∀ card, report.legacyPlan = some card →
    ∃ line, card.prices = [line] ∧ subscription.NamesPrice line.id
  legacy_apart : (catalog.map Offer.id).Nodup → ∀ card, report.legacyPlan = some card →
    card.id ∉ report.availablePlans.map Card.id

/-- A report offers the plans that are not legacy and on sale, each at its active prices, and to
everyone the same. The legacy plan is on it if and only if the account is billed for one, at that
price alone, and is none of those on offer if plans are told apart by their ids. -/
theorem report_cards (catalog : Catalog) (locale : String) :
    (∀ subscription limits now, Shows catalog subscription limits locale now
      (build catalog subscription limits locale now)) ∧
    (∀ subscription other limits otherLimits now later,
      (build catalog subscription limits locale now).availablePlans =
        (build catalog other otherLimits locale later).availablePlans) := by
  refine ⟨?shows, ?alike⟩
  case shows =>
    intro subscription limits now
    refine {
      entitlement_resolved := rfl
      offered := available_cards catalog subscription limits locale now
      legacy_iff := by rw [build, Option.isSome_map]
      legacy_priced := ?priced
      legacy_apart := legacy_apart catalog subscription limits locale now }
    case priced =>
      intro card shown
      obtain ⟨_, price, ⟨_, priceId, _, names, _, _, firstPrice⟩, _, single⟩ :=
        legacy_card catalog subscription limits locale now card shown
      have hit : price.id = priceId := first_key firstPrice
      refine ⟨price.line, single, ?_⟩
      show subscription.NamesPrice price.id
      rw [hit]
      exact names
  case alike =>
    intro subscription other limits otherLimits now later
    rw [available_cards, available_cards]

/-- A current plan, a legacy plan with an old and a current price, and one that is sold no more. -/
def mixedCatalog : Catalog :=
  [⟨.bare "P1" false, [.monthly "PS1" "P1"]⟩,
    ⟨.bare "P2" true, [{ Price.monthly "PS2" "P2" with status := .inactive },
      .monthly "PS3" "P2"]⟩,
    ⟨.bare "P3" false, [{ Price.monthly "PS4" "P3" with status := .inactive }]⟩]

-- The subscriber of the legacy plan still pays the old price, which is on no card of an offer.
theorem mixed_catalog_cards :
    let report := build mixedCatalog (.naming "P2" "PS2") Snapshot.bareLimits "en" 0
    report.availablePlans =
      [{ id := "P1", name := none, prices := [⟨"PS1", ⟨999, 2⟩, .eur, .month, 1⟩],
         features := [] }] ∧
    (mixedCatalog.map Offer.id).Nodup ∧
    ∃ card line, report.legacyPlan = some card ∧ card.prices = [line] ∧ line.id = "PS2" ∧
      card.id ∉ report.availablePlans.map Card.id := by
  intro report
  have shows := (report_cards mixedCatalog "en").1 (.naming "P2" "PS2") Snapshot.bareLimits 0
  have distinct : (mixedCatalog.map Offer.id).Nodup := by decide
  have present : report.legacyPlan.isSome = true := shows.legacy_iff.mpr (by decide)
  obtain ⟨card, found⟩ := Option.isSome_iff_exists.mp present
  obtain ⟨line, single, names⟩ := shows.legacy_priced card found
  have billed : line.id = "PS2" := (Option.some.inj names.1).symm
  refine ⟨?offered, distinct, card, line, found, single, billed,
    shows.legacy_apart distinct card found⟩
  case offered =>
    rw [shows.offered]
    decide

end Report

end Entitlement
