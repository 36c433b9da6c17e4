import Mathlib
import Entitlement.Activity
import Entitlement.Proofs.Cards

/-!
Amounts of money as text. The digits of the number of parts are filled up with zeros until one of
them stands before the point, so the point is all that the text has besides that number. What is
read without it is the amount, however great or small it is, and no two amounts look alike.
-/

namespace Entitlement

namespace Money

/-- Digits as they stand before a point: at least one, and a zero in front only if it is alone. -/
structure Whole (digits : List Char) : Prop where
  filled : digits ≠ []
  each : ∀ c ∈ digits, c.isDigit = true
  unpadded : digits.head? = some '0' → digits = ['0']

/-- How an amount is shown: a minus sign if it is below zero, the whole units, a point and so many
places. Without the point the text is that of the number of parts. -/
structure ShownBy (parts : Int) (places : Nat) (text : String) : Prop where
  form : ∃ whole fraction : List Char, Whole whole ∧ (∀ c ∈ fraction, c.isDigit = true) ∧
    fraction.length = places ∧
      text.toList = (if parts < 0 then ['-'] else []) ++ whole ++ '.' :: fraction
  reads : (String.ofList (text.toList.filter (· ≠ '.'))).toInt? = some parts

-- Digits

theorem toDigits_head (n : Nat) (zero : (Nat.toDigits 10 n).head? = some '0') : n = 0 := by
  induction n using Nat.strong_induction_on with
  | _ n ih =>
      by_cases single : n < 10
      · rw [Nat.toDigits_of_lt_base single, List.head?_cons] at zero
        have unlike : ∀ digit < 10, digit.digitChar = '0' → digit = 0 := by decide
        exact unlike n single (Option.some.inj zero)
      · rw [Nat.toDigits_of_base_le (by decide) (by omega),
          List.head?_append_of_ne_nil _ Nat.toDigits_ne_nil] at zero
        have none := ih (n / 10) (by omega) zero
        omega

theorem padded_length (digits : List Char) (places : Nat) :
    (padded digits places).length = max (places + 1) digits.length := by
  rw [padded, List.length_append, List.length_replicate]
  omega

theorem padded_each (n places : Nat) :
    ∀ c ∈ padded (Nat.toDigits 10 n) places, c.isDigit = true := by
  intro c present
  rcases List.mem_append.mp present with filling | written
  · rw [List.eq_of_mem_replicate filling]
    decide
  · exact Nat.isDigit_of_mem_toDigits (by decide) (by decide) written

theorem padded_value (n places : Nat) :
    Nat.ofDigitChars 10 (padded (Nat.toDigits 10 n) places) 0 = n := by
  rw [padded, Nat.ofDigitChars_append, Nat.ofDigitChars_replicate_zero, Nat.mul_zero]
  exact Nat.ofDigitChars_ten_toDigits

/-- Zeros are filled in only as far as one digit before the point. -/
theorem padded_whole (n places : Nat) :
    Whole ((padded (Nat.toDigits 10 n) places).take
      ((padded (Nat.toDigits 10 n) places).length - places)) := by
  have length := padded_length (Nat.toDigits 10 n) places
  generalize taken : (padded (Nat.toDigits 10 n) places).length - places = count
  have some : 0 < count := by omega
  have width : ((padded (Nat.toDigits 10 n) places).take count).length = count := by
    rw [List.length_take]
    omega
  constructor
  case filled =>
    intro nothing
    rw [nothing, List.length_nil] at width
    omega
  case each =>
    intro c present
    exact padded_each n places c (List.mem_of_mem_take present)
  case unpadded =>
    intro zero
    by_cases single : count = 1
    · subst single
      obtain ⟨c, alone⟩ := List.length_eq_one_iff.mp width
      rw [alone, List.head?_cons] at zero
      rw [alone, Option.some.inj zero]
    · -- With more than one digit before the point nothing was filled in, so the number is zero.
      have unfilled : padded (Nat.toDigits 10 n) places = Nat.toDigits 10 n := by
        rw [padded, show places + 1 - (Nat.toDigits 10 n).length = 0 by omega]
        rfl
      rw [List.head?_take, if_neg (by omega), unfilled] at zero
      have alone : (Nat.toDigits 10 n).length = 1 := by
        rw [toDigits_head n zero]
        rfl
      omega

-- Texts

theorem digits_read (digits : List Char) (filled : digits ≠ [])
    (each : ∀ c ∈ digits, c.isDigit = true) :
    (String.ofList digits).toNat? = some (Nat.ofDigitChars 10 digits 0) := by
  have number : (String.ofList digits).isNat = true := by
    apply String.isNat_of_isDigit
    · intro nothing
      exact filled (by rw [← String.toList_ofList (l := digits), nothing]; rfl)
    · rwa [String.toList_ofList]
  have plain : digits.filter (· != '_') = digits := by
    apply List.filter_eq_self.mpr
    intro c present
    apply bne_iff_ne.mpr
    rintro rfl
    exact absurd (each _ present) (by decide)
  rw [String.toNat?_eq_some_ofDigitChars number, String.toList_ofList, plain]

/-- The text of an amount shows it. -/
theorem text_shown (parts : Int) (places : Nat) : ShownBy parts places (text ⟨parts, places⟩) := by
  have each := padded_each parts.natAbs places
  have length := padded_length (Nat.toDigits 10 parts.natAbs) places
  have value := padded_value parts.natAbs places
  have written : (text ⟨parts, places⟩).toList =
      (if parts < 0 then ['-'] else []) ++
        (padded (Nat.toDigits 10 parts.natAbs) places).take
          ((padded (Nat.toDigits 10 parts.natAbs) places).length - places) ++
        '.' :: (padded (Nat.toDigits 10 parts.natAbs) places).drop
          ((padded (Nat.toDigits 10 parts.natAbs) places).length - places) := by
    simp only [text, String.toList_append, String.toList_ofList]
    split <;> simp
  have whole := padded_whole parts.natAbs places
  generalize padded (Nat.toDigits 10 parts.natAbs) places = digits
    at each length value written whole
  constructor
  case form =>
    refine ⟨_, _, whole, ?_, ?_, written⟩
    · intro c present
      exact each c (List.mem_of_mem_drop present)
    · rw [List.length_drop]
      omega
  case reads =>
    have pointless : (text ⟨parts, places⟩).toList.filter (· ≠ '.') =
        (if parts < 0 then ['-'] else []) ++ digits := by
      have kept : digits.filter (· ≠ '.') = digits := by
        apply List.filter_eq_self.mpr
        intro c present
        apply decide_eq_true
        rintro rfl
        exact absurd (each _ present) (by decide)
      have sign : (if parts < 0 then ['-'] else []).filter (· ≠ '.') =
          if parts < 0 then ['-'] else [] := by
        split <;> rfl
      rw [written, List.filter_append, List.filter_append, sign,
        List.filter_cons_of_neg (by decide), List.append_assoc, ← List.filter_append,
        List.take_append_drop, kept]
    have read := digits_read digits (List.ne_nil_of_length_pos (by omega)) each
    rw [value] at read
    rw [pointless]
    by_cases negative : parts < 0
    · rw [if_pos negative, String.ofList_append]
      refine String.toInt?_minus_append.trans ?_
      rw [read, Option.map_some]
      congr 1
      omega
    · rw [if_neg negative, List.nil_append, String.toInt?_eq_some_of_toNat?_eq_some read]
      congr 1
      omega

/-- Amounts that are shown by one text are one amount. -/
theorem shown_alike (one other : Int) (places alsoPlaces : Nat) (text : String)
    (shows : ShownBy one places text) (alsoShows : ShownBy other alsoPlaces text) :
    one = other :=
  Option.some.inj (shows.reads.symm.trans alsoShows.reads)

end Money

namespace Report

def cards (report : Report) : List Card := report.legacyPlan.toList ++ report.availablePlans

/-- Every line of a card is that of a price of the catalog. -/
theorem card_lines (catalog : Catalog) (subscription : Subscription) (limits : Limits)
    (locale : String) (now : Int) (card : Card)
    (shown : card ∈ (build catalog subscription limits locale now).cards) (line : PriceLine)
    (listed : line ∈ card.prices) :
    ∃ offer ∈ catalog, ∃ price ∈ offer.prices, line = price.line := by
  rcases List.mem_append.mp shown with legacy | offered
  · obtain ⟨offer, price, ⟨_, _, _, _, firstPlan, _, firstPrice⟩, _, single⟩ :=
      legacy_card catalog subscription limits locale now card (Option.mem_toList.mp legacy)
    rw [single] at listed
    exact ⟨offer, first_mem firstPlan, price, first_mem firstPrice, List.mem_singleton.mp listed⟩
  · rw [available_cards] at offered
    obtain ⟨offer, kept, rfl⟩ := List.mem_map.mp offered
    obtain ⟨price, active, rfl⟩ := List.mem_map.mp listed
    exact ⟨offer, (List.mem_filter.mp kept).1, price, (List.mem_filter.mp active).1, rfl⟩

end Report

/-- The text of a price shows its cents with two places, in the record and on every line of a
report, and the text of a balance shows its thousandths of a dollar with three. So amounts that
differ are never written alike. -/
theorem amounts_exact :
    (∀ price : Price, Money.ShownBy price.amountInCents.toInt 2 price.amount.text) ∧
    (∀ earnings : Earnings,
      Money.ShownBy earnings.amountInMilliUsd.toInt 3 earnings.amountInUsd.text) ∧
    (∀ catalog subscription limits locale now,
      ∀ card ∈ (Report.build catalog subscription limits locale now).cards,
        ∀ line ∈ card.prices, ∃ offer ∈ catalog, ∃ price ∈ offer.prices, line.id = price.id ∧
          ∃ text, line.tree.member? "amount" = some (.text text) ∧
            Money.ShownBy price.amountInCents.toInt 2 text) ∧
    (∀ one other : Price,
      one.amount.text = other.amount.text ↔ one.amountInCents = other.amountInCents) ∧
    (∀ one other : Earnings,
      one.amountInUsd.text = other.amountInUsd.text ↔
        one.amountInMilliUsd = other.amountInMilliUsd) := by
  have price (price : Price) : Money.ShownBy price.amountInCents.toInt 2 price.amount.text :=
    Money.text_shown _ 2
  have balance (earnings : Earnings) :
      Money.ShownBy earnings.amountInMilliUsd.toInt 3 earnings.amountInUsd.text :=
    Money.text_shown _ 3
  refine ⟨price, balance, ?lines, ?prices, ?balances⟩
  case lines =>
    intro catalog subscription limits locale now card shown line listed
    obtain ⟨offer, member, sold, owned, rfl⟩ :=
      Report.card_lines catalog subscription limits locale now card shown line listed
    exact ⟨offer, member, sold, owned, rfl, _, rfl, price sold⟩
  case prices =>
    intro one other
    constructor
    · intro same
      have shows := price one
      rw [same] at shows
      exact Int64.toInt_inj.mp (Money.shown_alike _ _ 2 2 _ shows (price other))
    · intro same
      rw [Price.amount, Price.amount, same]
  case balances =>
    intro one other
    constructor
    · intro same
      have shows := balance one
      rw [same] at shows
      exact Int64.toInt_inj.mp (Money.shown_alike _ _ 3 3 _ shows (balance other))
    · intro same
      rw [Earnings.amountInUsd, Earnings.amountInUsd, same]

/-- A plan at two prices: five cents that are paid out, and the least amount there is. -/
def refundOffer : Offer :=
  ⟨.bare "P1" false, [{ Price.monthly "PS1" "P1" with amountInCents := -5 },
    { Price.monthly "PS2" "P1" with amountInCents := Int64.minValue }]⟩

theorem refund_amounts_exact :
    let report := Report.build [refundOffer] (.naming "P1" "PS1") Snapshot.bareLimits "en" 0
    let card := refundOffer.card "en"
    card ∈ report.cards ∧
      card.prices.map (·.amount.text) = ["-0.05", "-92233720368547758.08"] ∧
      ∀ line ∈ card.prices, ∃ offer ∈ [refundOffer], ∃ price ∈ offer.prices,
        line.id = price.id ∧ ∃ text, line.tree.member? "amount" = some (.text text) ∧
          Money.ShownBy price.amountInCents.toInt 2 text := by
  intro report card
  obtain ⟨_, _, lines, _, _⟩ := amounts_exact
  have shown : card ∈ report.cards := by decide +kernel
  exact ⟨shown, by decide +kernel,
    lines [refundOffer] (.naming "P1" "PS1") Snapshot.bareLimits "en" 0 card shown⟩

end Entitlement
