import Mathlib.Data.List.TakeWhile
import Entitlement.Localized
import Entitlement.Proofs.ByteOrder
import Entitlement.Proofs.Canonical

/-!
Which text is chosen for a locale. It is the text under one key, and that key is found in four
steps: the locale, its language, the default locale, the least key. A text that is added is either
the new choice for a locale or leaves the choice as it was: whatever key is found afterwards is the
new one, or was found before.
-/

namespace Entitlement

-- The language of a locale

/-- The language of a locale is what stands before its first underscore or hyphen. -/
def IsLanguage (language locale : String) : Prop :=
  (∀ c ∈ language.toList, c ≠ '_' ∧ c ≠ '-') ∧
    (locale = language ∨
      ∃ rest, locale = language ++ "_" ++ rest ∨ locale = language ++ "-" ++ rest)

def isLanguageChar (c : Char) : Bool := c != '_' && c != '-'

theorem isLanguageChar_iff (c : Char) : isLanguageChar c = true ↔ c ≠ '_' ∧ c ≠ '-' := by
  simp [isLanguageChar]

theorem languageOf_whole (language : String)
    (inside : ∀ c ∈ language.toList, isLanguageChar c = true) : languageOf language = language := by
  show String.ofList (language.toList.takeWhile isLanguageChar) = language
  rw [List.takeWhile_eq_self_iff.mpr inside, String.ofList_toList]

theorem languageOf_before (language rest : String) (separator : Char)
    (inside : ∀ c ∈ language.toList, isLanguageChar c = true)
    (separates : isLanguageChar separator = false) :
    languageOf (language ++ String.singleton separator ++ rest) = language := by
  show String.ofList ((language ++ String.singleton separator ++ rest).toList.takeWhile
    isLanguageChar) = language
  rw [String.toList_append, String.toList_append, String.toList_singleton, List.append_assoc,
    List.takeWhile_append_of_pos inside, List.singleton_append,
    List.takeWhile_cons_of_neg (by simp [separates]), List.append_nil, String.ofList_toList]

theorem languageOf_language (locale : String) : IsLanguage (languageOf locale) locale := by
  have parts : languageOf locale ++ String.ofList (locale.toList.dropWhile isLanguageChar) =
      locale := by
    show String.ofList (locale.toList.takeWhile isLanguageChar) ++ _ = locale
    rw [← String.ofList_append, List.takeWhile_append_dropWhile, String.ofList_toList]
  refine ⟨fun c member => ?clean, ?ends⟩
  case clean =>
    rw [languageOf, String.toList_ofList] at member
    exact (isLanguageChar_iff c).mp (List.mem_takeWhile_imp member)
  case ends =>
    cases behind : locale.toList.dropWhile isLanguageChar with
    | nil =>
        rw [behind, String.ofList_nil, String.append_empty] at parts
        exact .inl parts.symm
    | cons c rest =>
        have stops : isLanguageChar c = false := by
          have head := List.head?_dropWhile_not isLanguageChar locale.toList
          rw [behind] at head
          simpa using head
        rw [behind, ← List.singleton_append, String.ofList_append, ← String.append_assoc] at parts
        have separator : c = '_' ∨ c = '-' := by
          rw [← Bool.not_eq_true, isLanguageChar_iff, not_and_or, not_not, not_not] at stops
          exact stops
        refine .inr ⟨String.ofList rest, ?_⟩
        rcases separator with rfl | rfl
        · exact .inl parts.symm
        · exact .inr parts.symm

/-- Every locale has one language. -/
theorem isLanguage_iff (language locale : String) :
    IsLanguage language locale ↔ language = languageOf locale := by
  constructor
  · rintro ⟨clean, ends⟩
    have inside : ∀ c ∈ language.toList, isLanguageChar c = true := fun c member =>
      (isLanguageChar_iff c).mpr (clean c member)
    rcases ends with rfl | ⟨rest, rfl | rfl⟩
    · exact (languageOf_whole locale inside).symm
    · exact (languageOf_before language rest '_' inside rfl).symm
    · exact (languageOf_before language rest '-' inside rfl).symm
  · rintro rfl
    exact languageOf_language locale

theorem languageOf_again (locale : String) : languageOf (languageOf locale) = languageOf locale :=
  languageOf_whole _ fun c member =>
    (isLanguageChar_iff c).mpr ((languageOf_language locale).1 c member)

namespace Localized

-- The key that is found for a locale

def IsLeast (messages : Localized) (key : String) : Prop :=
  key ∈ messages.texts.keys ∧
    ∀ other ∈ messages.texts.keys, other ≠ key → Text.bytes key < Text.bytes other

/-- The key whose text is shown for a locale. -/
inductive Finds (messages : Localized) (locale : String) : String → Prop where
  | exact (held : locale ∈ messages.texts.keys) : messages.Finds locale locale
  | language {language : String} (missed : locale ∉ messages.texts.keys)
      (part : IsLanguage language locale) (held : language ∈ messages.texts.keys) :
      messages.Finds locale language
  | default (missed : locale ∉ messages.texts.keys)
      (alsoMissed : ∀ language, IsLanguage language locale → language ∉ messages.texts.keys)
      (held : defaultLocale ∈ messages.texts.keys) : messages.Finds locale defaultLocale
  | least {key : String} (missed : locale ∉ messages.texts.keys)
      (alsoMissed : ∀ language, IsLanguage language locale → language ∉ messages.texts.keys)
      (noDefault : defaultLocale ∉ messages.texts.keys) (first : messages.IsLeast key) :
      messages.Finds locale key

variable {messages : Localized} {locale key text : String}

theorem missed_iff : key ∉ messages.texts.keys ↔ messages.texts.get? key = none := by
  rw [Dict.mem_keys, not_not]

theorem isLeast_iff {first : String × String} {rest : List (String × String)}
    (form : messages.texts.entries = first :: rest) : messages.IsLeast key ↔ key = first.1 := by
  have sorted := messages.texts.ascending
  rw [form] at sorted
  have listed : ∀ other, other ∈ messages.texts.keys ↔
      other = first.1 ∨ ∃ entry ∈ rest, entry.1 = other := by
    intro other
    rw [Dict.keys, form, List.map_cons, List.mem_cons, List.mem_map]
  have below : ∀ other ∈ messages.texts.keys, other ≠ first.1 →
      Text.bytes first.1 < Text.bytes other := by
    intro other held different
    rw [Text.bytes_lt_iff]
    rcases (listed other).mp held with same | ⟨entry, later, rfl⟩
    · exact absurd same different
    · exact ascending_below first rest sorted entry later
  constructor
  · rintro ⟨held, least⟩
    by_contra different
    have before := below key held different
    have behind := least first.1 ((listed _).mpr (.inl rfl)) (Ne.symm different)
    exact List.lt_asymm before behind
  · rintro rfl
    exact ⟨(listed _).mpr (.inl rfl), below⟩

theorem first?_least (first : messages.IsLeast key) :
    messages.first? = messages.texts.get? key := by
  cases form : messages.texts.entries with
  | nil =>
      have held := first.1
      rw [Dict.keys, form] at held
      cases held
  | cons entry rest =>
      obtain rfl := (isLeast_iff form).mp first
      rw [first?, Dict.get?, form]
      simp [Json.memberOf]

/-- The text that is shown stands under the key that is found. -/
theorem select_found (found : messages.Finds locale key) :
    messages.select locale = messages.texts.get? key := by
  have hit : ∀ key, key ∈ messages.texts.keys → ∀ next : Option String,
      (messages.texts.get? key).or next = messages.texts.get? key := by
    intro key held next
    obtain ⟨text, found⟩ := Option.ne_none_iff_exists'.mp ((Dict.mem_keys _ key).mp held)
    rw [found, Option.some_or]
  rw [select]
  cases found with
  | exact held => exact hit locale held _
  | language missed part held =>
      rw [missed_iff.mp missed, Option.none_or, ← (isLanguage_iff _ _).mp part]
      exact hit _ held _
  | default missed alsoMissed held =>
      rw [missed_iff.mp missed, missed_iff.mp (alsoMissed _ (languageOf_language locale)),
        Option.none_or, Option.none_or]
      exact hit _ held _
  | least missed alsoMissed noDefault first =>
      rw [missed_iff.mp missed, missed_iff.mp (alsoMissed _ (languageOf_language locale)),
        missed_iff.mp noDefault, Option.none_or, Option.none_or, Option.none_or]
      exact first?_least first

theorem found_key (found : messages.Finds locale key) : key ∈ messages.texts.keys := by
  cases found with
  | exact held => exact held
  | language _ _ held => exact held
  | default _ _ held => exact held
  | least _ _ _ first => exact first.1

/-- If there is any text, there is one for every locale. -/
theorem finds_some (filled : messages ≠ .empty) (locale : String) :
    ∃ key, messages.Finds locale key := by
  by_cases missed : locale ∈ messages.texts.keys
  · exact ⟨_, .exact missed⟩
  by_cases alsoMissed : languageOf locale ∈ messages.texts.keys
  · exact ⟨_, .language missed (languageOf_language locale) alsoMissed⟩
  have noLanguage : ∀ language, IsLanguage language locale → language ∉ messages.texts.keys :=
    fun language part held => alsoMissed ((isLanguage_iff _ _).mp part ▸ held)
  by_cases held : defaultLocale ∈ messages.texts.keys
  · exact ⟨_, .default missed noLanguage held⟩
  cases form : messages.texts.entries with
  | nil =>
      refine absurd ?_ filled
      obtain ⟨⟨entries, sorted⟩⟩ := messages
      obtain rfl : entries = [] := form
      rfl
  | cons first rest => exact ⟨_, .least missed noLanguage held ((isLeast_iff form).mpr rfl)⟩

theorem select_none : messages.select locale = none ↔ messages = .empty := by
  constructor
  · intro unseen
    by_contra filled
    obtain ⟨key, found⟩ := finds_some filled locale
    rw [select_found found] at unseen
    exact missed_iff.mpr unseen (found_key found)
  · rintro rfl
    rfl

theorem select_some : messages.select locale = some text ↔
    ∃ key, messages.Finds locale key ∧ (key, text) ∈ messages.texts.entries := by
  constructor
  · intro shown
    have filled : messages ≠ .empty := fun same => by
      rw [select_none.mpr same] at shown
      cases shown
    obtain ⟨key, found⟩ := finds_some filled locale
    rw [select_found found] at shown
    exact ⟨key, found, (Dict.mem_entries _ key text).mpr shown⟩
  · rintro ⟨key, found, entry⟩
    rw [select_found found]
    exact (Dict.mem_entries _ key text).mp entry

/-- A locale without a text of its own is shown what its language is shown. -/
theorem select_language (missed : locale ∉ messages.texts.keys) :
    messages.select locale = messages.select (languageOf locale) := by
  rw [select, select, languageOf_again, missed_iff.mp missed, Option.none_or]
  cases messages.texts.get? (languageOf locale) with
  | none => rw [Option.none_or, Option.none_or]
  | some text => rw [Option.some_or, Option.some_or]

-- One more text

/-- The key that is found once a text was added is its key, or was found before. -/
theorem finds_insert {other : String} (found : (messages.insert key text).Finds locale other) :
    other = key ∨ messages.Finds locale other := by
  have old : ∀ {other}, other ∈ (messages.insert key text).texts.keys → other ≠ key →
      other ∈ messages.texts.keys := fun held different =>
    ((Dict.mem_keys_insert messages.texts key _ text).mp held).resolve_left different
  have kept : ∀ {other}, other ∉ (messages.insert key text).texts.keys →
      other ∉ messages.texts.keys := fun missed held =>
    missed ((Dict.mem_keys_insert messages.texts key _ text).mpr (.inr held))
  by_cases same : other = key
  · exact .inl same
  right
  cases found with
  | exact held => exact .exact (old held same)
  | language missed part held => exact .language (kept missed) part (old held same)
  | default missed alsoMissed held =>
      exact .default (kept missed) (fun language part => kept (alsoMissed language part))
        (old held same)
  | least missed alsoMissed noDefault first =>
      refine .least (kept missed) (fun language part => kept (alsoMissed language part))
        (kept noDefault) ⟨old first.1 same, fun another held => first.2 another ?_⟩
      exact (Dict.mem_keys_insert messages.texts key another text).mpr (.inr held)

theorem insert_filled (messages : Localized) (key text : String) :
    messages.insert key text ≠ .empty := by
  intro same
  have held : key ∈ (messages.insert key text).texts.keys :=
    (Dict.mem_keys_insert messages.texts key key text).mpr (.inl rfl)
  rw [same] at held
  cases held

theorem select_insert_own (messages : Localized) (key text : String) :
    (messages.insert key text).select key = some text := by
  rw [select, insert, Dict.get?_insert, if_pos rfl, Option.some_or]

theorem select_insert_held (held : locale ∈ messages.texts.keys) (different : locale ≠ key) :
    (messages.insert key text).select locale = messages.select locale := by
  have still : locale ∈ (messages.insert key text).texts.keys :=
    (Dict.mem_keys_insert messages.texts key locale text).mpr (.inr held)
  rw [select_found (.exact held), select_found (.exact still), insert, Dict.get?_insert,
    if_neg different]

theorem select_insert (messages : Localized) (key text locale : String) :
    (messages.insert key text).select locale = some text ∨
      (messages.insert key text).select locale = messages.select locale := by
  obtain ⟨other, found⟩ := finds_some (insert_filled messages key text) locale
  rw [select_found found, insert, Dict.get?_insert]
  rcases finds_insert found with rfl | before
  · exact .inl (if_pos rfl)
  · by_cases same : other = key
    · exact .inl (if_pos same)
    · exact .inr ((if_neg same).trans (select_found before).symm)

/-- What is shown for every locale, and what that becomes when a text is added. -/
structure Resolves (messages : Localized) : Prop where
  one_language : ∀ locale, ∃! language, IsLanguage language locale
  none_iff : ∀ locale, messages.select locale = none ↔ messages = .empty
  some_iff : ∀ locale text, messages.select locale = some text ↔
    ∃ key, messages.Finds locale key ∧ (key, text) ∈ messages.texts.entries
  as_language : ∀ locale language, locale ∉ messages.texts.keys → IsLanguage language locale →
    messages.select locale = messages.select language
  added : ∀ key text locale, (messages.insert key text).select locale = some text ∨
    (messages.insert key text).select locale = messages.select locale
  added_own : ∀ key text, (messages.insert key text).select key = some text
  added_elsewhere : ∀ key text, ∀ locale ∈ messages.texts.keys, locale ≠ key →
    (messages.insert key text).select locale = messages.select locale
  any_order : ∀ key other text another, key ≠ other →
    (messages.insert key text).insert other another =
      (messages.insert other another).insert key text
  last_wins : ∀ key text another,
    (messages.insert key text).insert key another = messages.insert key another

/-- There is a text for every locale as soon as there is any. It is the text of the locale, of its
language, of the default locale or of the least key, in this order; a text that is added is shown
in place of another one or leaves what is shown as it was. -/
theorem select_resolves (messages : Localized) : messages.Resolves where
  one_language locale := ⟨languageOf locale, languageOf_language locale, fun language part =>
    (isLanguage_iff language locale).mp part⟩
  none_iff _ := select_none
  some_iff _ _ := select_some
  as_language locale language missed part := by
    rw [(isLanguage_iff language locale).mp part]
    exact select_language missed
  added := select_insert messages
  added_own := select_insert_own messages
  added_elsewhere _ _ _ held different := select_insert_held held different
  any_order key other text another different :=
    congrArg mk (Dict.insert_comm messages.texts key other text another different)
  last_wins key text another := congrArg mk (Dict.insert_again messages.texts key text another)

def greetings : Localized :=
  ((Localized.empty.insert "pt" "Olá").insert "de" "Hallo").insert "" "Saluton"

-- An empty language is a key like any other, and without English the least key stands in.
theorem greetings_resolved :
    greetings.select "pt-BR" = greetings.select "pt" ∧ greetings.select "_EO" = some "Saluton" ∧
      greetings.select "fr" = some "Saluton" ∧
      (greetings.insert "en" "Hello").select "de" = some "Hallo" ∧
      (greetings.insert "en" "Hello").select "fr" = some "Hello" := by
  have resolved := select_resolves greetings
  refine ⟨resolved.as_language "pt-BR" "pt" (by decide) ((isLanguage_iff _ _).mpr (by decide)),
    resolved.as_language "_EO" "" (by decide) ((isLanguage_iff _ _).mpr (by decide)), by decide,
    resolved.added_elsewhere "en" "Hello" "de" (by decide) (by decide), by decide⟩

end Localized

end Entitlement
