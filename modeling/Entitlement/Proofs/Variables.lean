import Mathlib.Data.List.Forall2
import Entitlement.Proofs.IntactText
import Entitlement.Proofs.Results
import Entitlement.Settings.Inspector

/-!
What settings come from which variables. A variable holds a text if its bytes are those of the text;
one that is unset and one whose bytes are damaged hold none. Texts that make no sense as a setting
leave it as usual: only the account and the token of the inspector have to be there.
-/

namespace Entitlement

open Text

-- Variables

namespace Environment

def Holds (environment : Environment) (name text : String) : Prop :=
  environment.get? name = some (bytes text)

instance (environment : Environment) (name text : String) :
    Decidable (environment.Holds name text) :=
  inferInstanceAs (Decidable (environment.get? name = some (bytes text)))

/-- The variable is unset, holds damaged bytes or nothing at all. -/
def Lacks (environment : Environment) (name : String) : Prop :=
  ∀ text, environment.Holds name text → text = ""

variable (environment : Environment) (name : String)

theorem text_iff (text : String) :
    environment.text? name = some text ↔ environment.Holds name text := by
  rw [text?, Option.bind_eq_some_iff, Holds]
  constructor
  · rintro ⟨written, set, read⟩
    rw [set, (intact_iff written text).mp read]
  · intro set
    exact ⟨bytes text, set, (intact_iff (bytes text) text).mpr rfl⟩

theorem text_none :
    environment.text? name = none ↔ ∀ text, ¬ environment.Holds name text := by
  simp only [← text_iff, Option.eq_none_iff_forall_ne_some, ne_eq]

theorem nonEmptyText_iff (text : String) :
    environment.nonEmptyText? name = some text ↔ environment.Holds name text ∧ text ≠ "" := by
  rw [nonEmptyText?, Option.filter_eq_some_iff, text_iff, decide_eq_true_iff]

theorem lacks_iff : environment.Lacks name ↔ environment.nonEmptyText? name = none := by
  simp only [Lacks, Option.eq_none_iff_forall_ne_some, ne_eq, nonEmptyText_iff, not_and, not_not]

/-- A setting that is the text of a variable if there is any, and else the usual one. -/
def Gives (usual text : String) : Prop :=
  (environment.Holds name text ∧ text ≠ "") ∨ (environment.Lacks name ∧ text = usual)

theorem gives_iff (usual text : String) :
    (environment.nonEmptyText? name).getD usual = text ↔ environment.Gives name usual text := by
  rw [Gives, ← nonEmptyText_iff, lacks_iff]
  cases environment.nonEmptyText? name with
  | none => simp [eq_comm]
  | some held => simp

end Environment

-- Seconds

/-- A number of seconds as it may be written: a plus sign or none, then one digit or more, with any
number of zeros in front. It is less than 2 to the 64th. -/
structure IsSeconds (text : String) (seconds : Nat) : Prop where
  written : ∃ digits, digits ≠ [] ∧ (∀ c ∈ digits, '0' ≤ c ∧ c ≤ '9') ∧
    (text.toList = digits ∨ text.toList = '+' :: digits) ∧ Nat.ofDigitChars 10 digits 0 = seconds
  fits : seconds < 18446744073709551616

theorem digit_iff (c : Char) (digit : Nat) :
    digit? c = some digit ↔ ('0' ≤ c ∧ c ≤ '9') ∧ c.toNat - '0'.toNat = digit := by
  have ranged : c.isDigit = true ↔ '0' ≤ c ∧ c ≤ '9' := by
    rw [Char.isDigit, Bool.and_eq_true, decide_eq_true_iff, decide_eq_true_iff]
    rfl
  rw [digit?, ← ranged]
  by_cases single : c.isDigit = true
  · rw [if_pos single, Option.some.injEq, and_iff_right single]
    rfl
  · simp [single]

theorem digits_fold (digits : List Char) (start number : Nat) :
    digits.foldlM (fun value c => (digit? c).map (value * 10 + ·)) start = some number ↔
      (∀ c ∈ digits, '0' ≤ c ∧ c ≤ '9') ∧ Nat.ofDigitChars 10 digits start = number := by
  induction digits generalizing start with
  | nil => simp [Nat.ofDigitChars]
  | cons c rest ih =>
      rw [List.foldlM_cons, Option.bind_eq_bind, Option.bind_eq_some_iff, Nat.ofDigitChars_cons,
        List.forall_mem_cons]
      constructor
      · rintro ⟨next, step, follows⟩
        obtain ⟨digit, read, rfl⟩ := Option.map_eq_some_iff.mp step
        obtain ⟨ranged, rfl⟩ := (digit_iff c digit).mp read
        obtain ⟨others, value⟩ := (ih _).mp follows
        refine ⟨⟨ranged, others⟩, ?_⟩
        rw [Nat.mul_comm 10 start]
        exact value
      · rintro ⟨⟨ranged, others⟩, value⟩
        rw [Nat.mul_comm 10 start] at value
        exact ⟨_, Option.map_eq_some_iff.mpr ⟨_, (digit_iff c _).mpr ⟨ranged, rfl⟩, rfl⟩,
          (ih _).mpr ⟨others, value⟩⟩

theorem decimal_iff (digits : List Char) (number : Nat) :
    decimal? digits = some number ↔ digits ≠ [] ∧ (∀ c ∈ digits, '0' ≤ c ∧ c ≤ '9') ∧
      Nat.ofDigitChars 10 digits 0 = number := by
  cases digits with
  | nil => simp [decimal?]
  | cons c rest =>
      rw [decimal?, digits_fold]
      · simp
      · simp

theorem decimal_withoutPlus (text : List Char) (number : Nat) :
    decimal? (withoutPlus text) = some number ↔ ∃ digits, digits ≠ [] ∧
      (∀ c ∈ digits, '0' ≤ c ∧ c ≤ '9') ∧ (text = digits ∨ text = '+' :: digits) ∧
        Nat.ofDigitChars 10 digits 0 = number := by
  rw [decimal_iff]
  constructor
  · rintro ⟨filled, each, value⟩
    refine ⟨withoutPlus text, filled, each, ?_, value⟩
    unfold withoutPlus
    split
    · exact Or.inr rfl
    · exact Or.inl rfl
  · rintro ⟨digits, filled, each, plain | signed, value⟩
    · have unsigned : withoutPlus text = digits := by
        rw [← plain]
        unfold withoutPlus
        split
        · next rest =>
            have sign := each '+' (plain ▸ List.mem_cons_self)
            exact absurd sign (by decide)
        · rfl
      rw [unsigned]
      exact ⟨filled, each, value⟩
    · rw [signed]
      exact ⟨filled, each, value⟩

theorem seconds_iff (text : String) (seconds : UInt64) :
    seconds? text = some seconds ↔ IsSeconds text seconds.toNat := by
  rw [seconds?, Option.map_eq_some_iff]
  constructor
  · rintro ⟨number, read, rfl⟩
    obtain ⟨decimal, fits⟩ := Option.filter_eq_some_iff.mp read
    have fits := of_decide_eq_true fits
    rw [UInt64.toNat_ofNat', Nat.mod_eq_of_lt fits]
    exact ⟨(decimal_withoutPlus text.toList number).mp decimal, fits⟩
  · rintro ⟨written, fits⟩
    exact ⟨seconds.toNat, Option.filter_eq_some_iff.mpr
      ⟨(decimal_withoutPlus text.toList _).mpr written, decide_eq_true fits⟩, UInt64.ofNat_toNat⟩

-- Platforms

def SameLetter (one other : Char) : Prop :=
  one = other ∨ (('A' ≤ one ∧ one ≤ 'Z') ∧ other.toNat = one.toNat + 32) ∨
    (('A' ≤ other ∧ other ≤ 'Z') ∧ one.toNat = other.toNat + 32)

def SameLetters (one other : String) : Prop :=
  List.Forall₂ SameLetter one.toList other.toList

theorem capital_iff (c : Char) : ('A' ≤ c ∧ c ≤ 'Z') ↔ 65 ≤ c.toNat ∧ c.toNat ≤ 90 := by
  rw [Char.le_def, Char.le_def, UInt32.le_iff_toNat_le, UInt32.le_iff_toNat_le]
  rfl

theorem toLower_toNat (c : Char) :
    c.toLower.toNat = if 65 ≤ c.toNat ∧ c.toNat ≤ 90 then c.toNat + 32 else c.toNat := by
  by_cases capital : c.val ≥ 'A'.val ∧ c.val ≤ 'Z'.val
  · have bounds := (capital_iff c).mp capital
    have value : c.val.toNat = c.toNat := rfl
    rw [if_pos bounds, show c.toLower = _ from dif_pos capital]
    change (c.val + ('a'.val - 'A'.val)).toNat = c.toNat + 32
    rw [UInt32.toNat_add, value]
    exact Nat.mod_eq_of_lt (Nat.lt_of_le_of_lt (Nat.add_le_add_right bounds.2 32) (by decide))
  · rw [if_neg (mt (capital_iff c).mpr capital), show c.toLower = c from dif_neg capital]

theorem toLower_iff (c small : Char) (uncapital : ¬ ('A' ≤ small ∧ small ≤ 'Z')) :
    c.toLower = small ↔ SameLetter small c := by
  rw [capital_iff] at uncapital
  rw [SameLetter, capital_iff, capital_iff, ← Char.toNat_inj, ← Char.toNat_inj, toLower_toNat]
  split <;> omega

theorem lowered_iff (text name : List Char)
    (uncapital : ∀ c ∈ name, ¬ ('A' ≤ c ∧ c ≤ 'Z')) :
    text.map Char.toLower = name ↔ List.Forall₂ SameLetter name text := by
  induction name generalizing text with
  | nil => rw [List.map_eq_nil_iff, List.forall₂_nil_left_iff]
  | cons c rest ih =>
      obtain ⟨small, others⟩ := List.forall_mem_cons.mp uncapital
      rw [List.map_eq_cons_iff, List.forall₂_cons_left_iff]
      constructor
      · rintro ⟨first, behind, rfl, lowered, follows⟩
        exact ⟨first, behind, (toLower_iff first c small).mp lowered, (ih behind others).mp follows,
          rfl⟩
      · rintro ⟨first, behind, same, follows, rfl⟩
        exact ⟨first, behind, rfl, (toLower_iff first c small).mpr same,
          (ih behind others).mpr follows⟩

theorem name_lowered (text : String) (platform : Platform) :
    (platform.name.toList == text.toList.map Char.toLower) = true ↔
      SameLetters platform.name text := by
  have small : platform.name.toList.all (fun c => !decide ('A' ≤ c ∧ c ≤ 'Z')) = true := by
    cases platform <;> rfl
  have uncapital : ∀ c ∈ platform.name.toList, ¬ ('A' ≤ c ∧ c ≤ 'Z') := by
    intro c present capital
    have marked := List.all_eq_true.mp small c present
    rw [decide_eq_true capital] at marked
    cases marked
  rw [beq_iff_eq, eq_comm, lowered_iff _ _ uncapital, SameLetters]

theorem ofName_iff (text : String) (platform : Platform) :
    Platform.ofName? text = some platform ↔ SameLetters platform.name text := by
  have apart (lowered : List Char) (isDesktop : Platform.desktop.name.toList = lowered) :
      Platform.mobile.name.toList ≠ lowered := by
    rw [← isDesktop]
    decide
  rw [← name_lowered, Platform.ofName?, Platform.all]
  generalize text.toList.map Char.toLower = lowered at apart ⊢
  by_cases isDesktop : Platform.desktop.name.toList = lowered
  · have notMobile := apart lowered isDesktop
    cases platform <;> simp [isDesktop, notMobile]
  · by_cases isMobile : Platform.mobile.name.toList = lowered <;>
      cases platform <;> simp [isDesktop, isMobile]

-- The settings of the client

namespace ClientSettings

/-- The timeout that a variable gives: its number of seconds, or the usual one if it holds none. -/
def GivesTimeout (environment : Environment) (seconds : UInt64) : Prop :=
  (∃ text, environment.Holds "USAGE_API_TIMEOUT" text ∧ IsSeconds text seconds.toNat) ∨
    ((∀ text, environment.Holds "USAGE_API_TIMEOUT" text → ∀ number, ¬ IsSeconds text number) ∧
      seconds = 30)

/-- The variable holds a text, possibly an empty one, that names no platform. -/
def UnknownPlatform (environment : Environment) : Prop :=
  ∃ text, environment.Holds "USAGE_PLATFORM" text ∧ ¬ SameLetters "mobile" text ∧
    ¬ SameLetters "desktop" text

/-- What the variables make of the client, each setting by a variable of its own. -/
structure Follow (environment : Environment) (settings : ClientSettings)
    (warnings : List Warning) : Prop where
  address : environment.Gives "USAGE_API_URL" "https://api.gdevelop.io/usage" settings.baseUrl
  timeout : GivesTimeout environment settings.timeoutInSeconds
  platform : settings.platform = .mobile ↔
    ∃ text, environment.Holds "USAGE_PLATFORM" text ∧ SameLetters "mobile" text
  warning : (UnknownPlatform environment ∧ warnings = [.unknownPlatform]) ∨
    (¬ UnknownPlatform environment ∧ warnings = [])

theorem timeout_read (environment : Environment) (seconds : UInt64) :
    (environment.text? "USAGE_API_TIMEOUT").bind seconds? = some seconds ↔
      ∃ text, environment.Holds "USAGE_API_TIMEOUT" text ∧ IsSeconds text seconds.toNat := by
  simp only [Option.bind_eq_some_iff, Environment.text_iff, seconds_iff]

theorem timeout_unread (environment : Environment) :
    (environment.text? "USAGE_API_TIMEOUT").bind seconds? = none ↔
      ∀ text, environment.Holds "USAGE_API_TIMEOUT" text →
        ∀ number, ¬ IsSeconds text number := by
  rw [Option.eq_none_iff_forall_ne_some]
  constructor
  · intro unread text holds number counts
    have whole : (UInt64.ofNat number).toNat = number := by
      rw [UInt64.toNat_ofNat']
      exact Nat.mod_eq_of_lt counts.fits
    exact unread (UInt64.ofNat number)
      ((timeout_read environment _).mpr ⟨text, holds, by rwa [whole]⟩)
  · intro none seconds read
    obtain ⟨text, holds, counts⟩ := (timeout_read environment seconds).mp read
    exact none text holds seconds.toNat counts

theorem timeout_iff (environment : Environment) (seconds : UInt64) :
    ((environment.text? "USAGE_API_TIMEOUT").bind seconds?).getD 30 = seconds ↔
      GivesTimeout environment seconds := by
  rw [GivesTimeout, ← timeout_read, ← timeout_unread]
  cases (environment.text? "USAGE_API_TIMEOUT").bind seconds? with
  | none => simp [eq_comm]
  | some held => simp

def platformAndWarnings (environment : Environment) : Platform × List Warning :=
  ((environment.text? "USAGE_PLATFORM").map platformOf).getD (.desktop, [])

theorem platform_iff (environment : Environment) (platform : Platform) (warnings : List Warning) :
    platformAndWarnings environment = (platform, warnings) ↔
      (platform = .mobile ↔
        ∃ text, environment.Holds "USAGE_PLATFORM" text ∧ SameLetters "mobile" text) ∧
      ((UnknownPlatform environment ∧ warnings = [.unknownPlatform]) ∨
        (¬ UnknownPlatform environment ∧ warnings = [])) := by
  have mobile (text : String) : SameLetters "mobile" text ↔
      Platform.ofName? text = some .mobile := (ofName_iff text .mobile).symm
  have desktop (text : String) : SameLetters "desktop" text ↔
      Platform.ofName? text = some .desktop := (ofName_iff text .desktop).symm
  simp only [platformAndWarnings, UnknownPlatform, ← Environment.text_iff, mobile, desktop]
  cases environment.text? "USAGE_PLATFORM" with
  | none => cases platform <;> simp [eq_comm]
  | some text =>
      rw [Option.map_some, Option.getD_some, platformOf]
      cases named : Platform.ofName? text with
      | none => cases platform <;> simp [named, eq_comm]
      | some found => cases found <;> cases platform <;> simp [named, eq_comm]

theorem ofEnvironment_eq (environment : Environment) :
    ofEnvironment environment =
      (⟨(environment.nonEmptyText? "USAGE_API_URL").getD defaultBaseUrl,
        ((environment.text? "USAGE_API_TIMEOUT").bind seconds?).getD 30,
        (platformAndWarnings environment).1⟩, (platformAndWarnings environment).2) :=
  rfl

end ClientSettings

/-- The client's settings are what the variables make of them, for every environment, and none of
them depends on another variable than its own. -/
theorem client_settings_exact :
    (∀ environment settings warnings,
      ClientSettings.ofEnvironment environment = (settings, warnings) ↔
        ClientSettings.Follow environment settings warnings) ∧
    (∀ one other : Environment, one.get? "USAGE_API_URL" = other.get? "USAGE_API_URL" →
      (ClientSettings.ofEnvironment one).1.baseUrl =
        (ClientSettings.ofEnvironment other).1.baseUrl) ∧
    (∀ one other : Environment, one.get? "USAGE_API_TIMEOUT" = other.get? "USAGE_API_TIMEOUT" →
      (ClientSettings.ofEnvironment one).1.timeoutInSeconds =
        (ClientSettings.ofEnvironment other).1.timeoutInSeconds) ∧
    (∀ one other : Environment, one.get? "USAGE_PLATFORM" = other.get? "USAGE_PLATFORM" →
      (ClientSettings.ofEnvironment one).1.platform =
        (ClientSettings.ofEnvironment other).1.platform ∧
      (ClientSettings.ofEnvironment one).2 = (ClientSettings.ofEnvironment other).2) := by
  refine ⟨?follow, ?address, ?timeout, ?platform⟩
  case follow =>
    intro environment settings warnings
    obtain ⟨baseUrl, seconds, platform⟩ := settings
    have address := environment.gives_iff "USAGE_API_URL" ClientSettings.defaultBaseUrl baseUrl
    have timeout := ClientSettings.timeout_iff environment seconds
    have platforms := ClientSettings.platform_iff environment platform warnings
    rw [ClientSettings.ofEnvironment_eq, Prod.mk.injEq, ClientSettings.mk.injEq, address, timeout]
    constructor
    · rintro ⟨⟨given, waits, rfl⟩, rfl⟩
      obtain ⟨mobile, warned⟩ := platforms.mp rfl
      exact ⟨given, waits, mobile, warned⟩
    · rintro ⟨given, waits, mobile, warned⟩
      rw [platforms.mpr ⟨mobile, warned⟩]
      exact ⟨⟨given, waits, rfl⟩, rfl⟩
  case address =>
    intro one other same
    simp only [ClientSettings.ofEnvironment_eq, Environment.nonEmptyText?, Environment.text?, same]
  case timeout =>
    intro one other same
    simp only [ClientSettings.ofEnvironment_eq, Environment.text?, same]
  case platform =>
    intro one other same
    simp only [ClientSettings.ofEnvironment_eq, ClientSettings.platformAndWarnings,
      Environment.text?, same, and_self]

def mixedEnvironment : Environment :=
  (Environment.ofTexts [("USAGE_API_TIMEOUT", "+00018446744073709551615"),
    ("USAGE_PLATFORM", "MoBiLe")]).insert "USAGE_API_URL" [0xFF]

theorem mixed_settings :
    ClientSettings.Follow mixedEnvironment
      ⟨"https://api.gdevelop.io/usage", 18446744073709551615, .mobile⟩ [] ∧
    ClientSettings.Follow (mixedEnvironment.set "USAGE_PLATFORM" "")
      ⟨"https://api.gdevelop.io/usage", 18446744073709551615, .desktop⟩ [.unknownPlatform] ∧
    (ClientSettings.ofEnvironment (mixedEnvironment.set "USAGE_PLATFORM" "")).1.baseUrl =
      (ClientSettings.ofEnvironment mixedEnvironment).1.baseUrl := by
  obtain ⟨follow, address, _, _⟩ := client_settings_exact
  exact ⟨(follow _ _ _).mp (by decide +kernel), (follow _ _ _).mp (by decide +kernel),
    address _ _ (by decide +kernel)⟩

-- The settings of the inspector

namespace InspectorSettings

/-- Why a variable that is needed cannot be used: it is empty, or it holds no text at all. -/
def Refuses (environment : Environment) (name message : String) : Prop :=
  (environment.Holds name "" ∧ message = name ++ " must not be empty") ∨
    ((∀ text, ¬ environment.Holds name text) ∧ message = name ++ " must be set")

structure Follow (environment : Environment) (settings : InspectorSettings) : Prop where
  account : environment.Holds "USAGE_USER_ID" settings.userId ∧ settings.userId ≠ ""
  token : environment.Holds "USAGE_ACCESS_TOKEN" settings.accessToken ∧ settings.accessToken ≠ ""
  client : settings.client = (ClientSettings.ofEnvironment environment).1
  locale : environment.Gives "USAGE_LOCALE" "en" settings.locale
  legacy : settings.includeLegacy = false ↔ environment.Holds "USAGE_INCLUDE_LEGACY" "false"

theorem required_ok (environment : Environment) (name value : String) :
    environment.required name = .ok value ↔ environment.Holds name value ∧ value ≠ "" := by
  rw [← Environment.text_iff, Environment.required]
  split
  · next unread => simp [unread]
  · next read => simp [read, eq_comm]
  · next held filled read =>
      rw [read, Except.ok.injEq, Option.some.injEq]
      constructor
      · rintro rfl
        exact ⟨rfl, filled⟩
      · exact And.left

theorem required_error (environment : Environment) (name message : String) :
    (environment.required name).mapError SettingsFault.message = .error message ↔
      Refuses environment name message := by
  rw [Refuses, ← Environment.text_iff, ← Environment.text_none, Environment.required]
  split
  · next unread => simp [unread, Except.mapError, SettingsFault.message, eq_comm]
  · next read => simp [read, Except.mapError, SettingsFault.message, eq_comm]
  · next held filled read =>
      have filled : held ≠ "" := filled
      simp [read, filled, Except.mapError]

theorem required_missing (environment : Environment) (name : String) :
    (∃ fault, environment.required name = .error fault) ↔ environment.Lacks name := by
  rw [Environment.lacks_iff, Environment.nonEmptyText?, Environment.required]
  split
  · next unread => simp [unread]
  · next read => simp [read]
  · next held filled read =>
      have filled : held ≠ "" := filled
      simp [read, filled]

theorem legacy_iff (environment : Environment) (includeLegacy : Bool) :
    (environment.text? "USAGE_INCLUDE_LEGACY" != some "false") = includeLegacy ↔
      (includeLegacy = false ↔ environment.Holds "USAGE_INCLUDE_LEGACY" "false") := by
  rw [← Environment.text_iff]
  by_cases off : environment.text? "USAGE_INCLUDE_LEGACY" = some "false" <;>
    cases includeLegacy <;> simp [off]

theorem ofEnvironment_ok (environment : Environment) (settings : InspectorSettings) :
    ofEnvironment environment = .ok settings ↔ Follow environment settings := by
  obtain ⟨client, userId, accessToken, locale, includeLegacy⟩ := settings
  have user := required_ok environment "USAGE_USER_ID" userId
  have token := required_ok environment "USAGE_ACCESS_TOKEN" accessToken
  have shown := environment.gives_iff "USAGE_LOCALE" defaultLocale locale
  have legacy := legacy_iff environment includeLegacy
  simp only [ofEnvironment, bind_ok, pure, Except.pure, Except.ok.injEq,
    InspectorSettings.mk.injEq]
  constructor
  · rintro ⟨_, read, _, alsoRead, same, rfl, rfl, localised, listed⟩
    exact ⟨user.mp read, token.mp alsoRead, same.symm, shown.mp localised, legacy.mp listed⟩
  · rintro ⟨held, alsoHeld, same, localised, listed⟩
    exact ⟨userId, user.mpr held, accessToken, token.mpr alsoHeld, same.symm, rfl, rfl,
      shown.mpr localised, legacy.mpr listed⟩

theorem ofEnvironment_error (environment : Environment) (message : String) :
    (ofEnvironment environment).mapError SettingsFault.message = .error message ↔
      Refuses environment "USAGE_USER_ID" message ∨
        (¬ environment.Lacks "USAGE_USER_ID" ∧
          Refuses environment "USAGE_ACCESS_TOKEN" message) := by
  have user := required_error environment "USAGE_USER_ID" message
  have token := required_error environment "USAGE_ACCESS_TOKEN" message
  rw [← user, ← token, ← required_missing, ofEnvironment]
  cases environment.required "USAGE_USER_ID" with
  | error fault => simp [bind, Except.bind, Except.mapError]
  | ok userId =>
      cases environment.required "USAGE_ACCESS_TOKEN" <;>
        simp [bind, Except.bind, Except.mapError, pure, Except.pure]

theorem ofEnvironment_fails (environment : Environment) :
    (∃ fault, ofEnvironment environment = .error fault) ↔
      environment.Lacks "USAGE_USER_ID" ∨ environment.Lacks "USAGE_ACCESS_TOKEN" := by
  rw [← required_missing, ← required_missing, ofEnvironment]
  cases environment.required "USAGE_USER_ID" with
  | error fault => simp [bind, Except.bind]
  | ok userId =>
      cases environment.required "USAGE_ACCESS_TOKEN" <;>
        simp [bind, Except.bind, pure, Except.pure]

end InspectorSettings

/-- The inspector has no settings if and only if the account or the token is missing, the account
being missed first, whatever the other variables are. All else is as usual where it is not given. -/
theorem inspector_settings_exact (environment : Environment) :
    ((∃ fault, InspectorSettings.ofEnvironment environment = .error fault) ↔
      environment.Lacks "USAGE_USER_ID" ∨ environment.Lacks "USAGE_ACCESS_TOKEN") ∧
    (∀ message, (InspectorSettings.ofEnvironment environment).mapError SettingsFault.message =
        .error message ↔
      InspectorSettings.Refuses environment "USAGE_USER_ID" message ∨
        (¬ environment.Lacks "USAGE_USER_ID" ∧
          InspectorSettings.Refuses environment "USAGE_ACCESS_TOKEN" message)) ∧
    (∀ other : Environment, other.get? "USAGE_USER_ID" = environment.get? "USAGE_USER_ID" →
      other.get? "USAGE_ACCESS_TOKEN" = environment.get? "USAGE_ACCESS_TOKEN" →
      ∀ fault, InspectorSettings.ofEnvironment other = .error fault ↔
        InspectorSettings.ofEnvironment environment = .error fault) ∧
    (∀ settings, InspectorSettings.ofEnvironment environment = .ok settings ↔
      InspectorSettings.Follow environment settings) := by
  refine ⟨InspectorSettings.ofEnvironment_fails environment,
    InspectorSettings.ofEnvironment_error environment, ?others,
    InspectorSettings.ofEnvironment_ok environment⟩
  intro other sameUser sameToken fault
  have user : other.required "USAGE_USER_ID" = environment.required "USAGE_USER_ID" := by
    rw [Environment.required, Environment.required, Environment.text?, Environment.text?, sameUser]
  have token :
      other.required "USAGE_ACCESS_TOKEN" = environment.required "USAGE_ACCESS_TOKEN" := by
    rw [Environment.required, Environment.required, Environment.text?, Environment.text?, sameToken]
  rw [InspectorSettings.ofEnvironment, InspectorSettings.ofEnvironment, user, token]
  cases environment.required "USAGE_USER_ID" with
  | error fault => rfl
  | ok userId =>
      cases environment.required "USAGE_ACCESS_TOKEN" with
      | error fault => rfl
      | ok accessToken => simp [bind, Except.bind, pure, Except.pure]

def namelessEnvironment : Environment :=
  (Environment.ofTexts [("USAGE_USER_ID", "")]).insert "USAGE_ACCESS_TOKEN" [0xC3]

theorem nameless_settings :
    (InspectorSettings.ofEnvironment namelessEnvironment).mapError SettingsFault.message =
      .error "USAGE_USER_ID must not be empty" ∧
    ∀ fault, InspectorSettings.ofEnvironment
        (Environment.set namelessEnvironment "USAGE_LOCALE" "fr") = .error fault ↔
      InspectorSettings.ofEnvironment namelessEnvironment = .error fault := by
  obtain ⟨_, messages, others, _⟩ := inspector_settings_exact namelessEnvironment
  have holds : Environment.Holds namelessEnvironment "USAGE_USER_ID" "" := by decide +kernel
  exact ⟨(messages _).mpr (Or.inl (Or.inl ⟨holds, rfl⟩)),
    others _ (by decide +kernel) (by decide +kernel)⟩

end Entitlement
