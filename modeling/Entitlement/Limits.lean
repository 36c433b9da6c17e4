import Entitlement.Record.Codec

/-!
What an account may use: quotas that fill up, capabilities, and credits with their prices.
-/

namespace Entitlement

open Record

inductive QuotaPeriod where
  | oneDay
  | thirtyDays
  deriving DecidableEq, Repr

structure Quota where
  limitReached : Bool
  current : Int64
  max : Int64
  period : Option QuotaPeriod
  deriving DecidableEq, Repr

inductive ThemeCustomization where
  | none
  | basic
  | full
  deriving DecidableEq, Repr

structure Analytics where
  sessions : Bool
  players : Bool
  retention : Bool
  sessionsTimeStats : Bool
  platforms : Bool
  deriving DecidableEq, Repr

structure CloudProjects where
  maximumCount : Int64
  canMaximumCountBeIncreased : Bool
  maximumGuestCollaboratorsPerProject : Int64
  deriving DecidableEq, Repr

structure Leaderboards where
  maximumCountPerGame : Int64
  canMaximumCountPerGameBeIncreased : Bool
  themeCustomization : ThemeCustomization
  canUseCustomCss : Bool
  canDisableLogin : Bool
  deriving DecidableEq, Repr

structure PrivateTutorials where
  allowedIdPrefixes : List String
  deriving DecidableEq, Repr

structure Classrooms where
  hideAskAi : Bool
  hideAnnouncements : Bool
  hidePlayTab : Bool
  hideSocials : Bool
  hidePremiumProducts : Bool
  hideUpgradeNotice : Bool
  showClassroomTab : Bool
  deriving DecidableEq, Repr

structure Multiplayer where
  lobbiesCount : Int64
  maxPlayersPerLobby : Int64
  themeCustomization : ThemeCustomization
  deriving DecidableEq, Repr

structure VersionHistory where
  enabled : Bool
  deriving DecidableEq, Repr

structure Capabilities where
  analytics : Analytics
  cloudProjects : CloudProjects
  leaderboards : Leaderboards
  privateTutorials : Option PrivateTutorials
  classrooms : Option Classrooms
  multiplayer : Multiplayer
  versionHistory : VersionHistory
  deriving DecidableEq, Repr

structure VariablePrice where
  minimumInCredits : Int64
  maximumInCredits : Int64
  deriving DecidableEq, Repr

/-- The price of one usage, with a range for each variant of a kind of usage. -/
structure UsagePrice where
  inCredits : Int64
  ranges : Option (Dict (Dict VariablePrice))
  deriving DecidableEq

structure PurchasableQuantity where
  quantity : Int64
  deriving DecidableEq, Repr

structure UserBalance where
  amount : Int64
  deriving DecidableEq, Repr

structure Credits where
  balance : UserBalance
  prices : Dict UsagePrice
  purchasable : Dict PurchasableQuantity
  deriving DecidableEq

abbrev Quotas := Dict Quota

structure Limits where
  quotas : Quotas
  capabilities : Capabilities
  credits : Credits
  message : Option String
  deriving DecidableEq

namespace QuotaPeriod

def all : List QuotaPeriod := [.oneDay, .thirtyDays]

def name : QuotaPeriod → String
  | .oneDay => "1day"
  | .thirtyDays => "30days"

def codec : Codec QuotaPeriod := .choice all name

end QuotaPeriod

namespace Quota

def codec : Codec Quota :=
  .record "Quota"
    (.field "limitReached" .bool .required <|
      .field "current" .int64 .required <|
      .field "max" .int64 .required <|
      .field "period" (.option QuotaPeriod.codec) .optional .nil)
    (fun (reached, current, max, period, ()) => ⟨reached, current, max, period⟩)
    (fun quota => (quota.limitReached, quota.current, quota.max, quota.period, ()))

/-- What is left of the quota, and nothing once it is used up. The difference wraps around in 64
bits. -/
def remaining (quota : Quota) : Int :=
  Max.max (quota.max - quota.current).toInt 0

theorem remaining_exact (quota : Quota)
    (low : Int64.minValue.toInt ≤ quota.max.toInt - quota.current.toInt)
    (high : quota.max.toInt - quota.current.toInt ≤ Int64.maxValue.toInt) :
    quota.remaining = Max.max (quota.max.toInt - quota.current.toInt) 0 := by
  rw [Int64.toInt_minValue] at low
  rw [Int64.toInt_maxValue] at high
  rw [remaining, Int64.toInt_sub, Int.bmod_eq_of_le (by omega) (by omega)]

end Quota

namespace ThemeCustomization

def all : List ThemeCustomization := [.none, .basic, .full]

def name : ThemeCustomization → String
  | .none => "NONE"
  | .basic => "BASIC"
  | .full => "FULL"

def codec : Codec ThemeCustomization := .choice all name

end ThemeCustomization

def Analytics.codec : Codec Analytics :=
  .record "AnalyticsCapabilities"
    (.field "sessions" .bool .required <|
      .field "players" .bool .required <|
      .field "retention" .bool .required <|
      .field "sessionsTimeStats" .bool .required <|
      .field "platforms" .bool .required .nil)
    (fun (sessions, players, retention, stats, platforms, ()) =>
      ⟨sessions, players, retention, stats, platforms⟩)
    (fun a => (a.sessions, a.players, a.retention, a.sessionsTimeStats, a.platforms, ()))

def CloudProjects.codec : Codec CloudProjects :=
  .record "CloudProjectsCapabilities"
    (.field "maximumCount" .int64 .required <|
      .field "canMaximumCountBeIncreased" .bool .required <|
      .field "maximumGuestCollaboratorsPerProject" .int64 .required .nil)
    (fun (count, increasable, guests, ()) => ⟨count, increasable, guests⟩)
    (fun c => (c.maximumCount, c.canMaximumCountBeIncreased,
      c.maximumGuestCollaboratorsPerProject, ()))

def Leaderboards.codec : Codec Leaderboards :=
  .record "LeaderboardsCapabilities"
    (.field "maximumCountPerGame" .int64 .required <|
      .field "canMaximumCountPerGameBeIncreased" .bool .required <|
      .field "themeCustomizationCapabilities" ThemeCustomization.codec .required <|
      .field "canUseCustomCss" .bool .required <|
      .field "canDisableLoginInLeaderboard" .bool .required .nil)
    (fun (count, increasable, theme, css, login, ()) => ⟨count, increasable, theme, css, login⟩)
    (fun l => (l.maximumCountPerGame, l.canMaximumCountPerGameBeIncreased, l.themeCustomization,
      l.canUseCustomCss, l.canDisableLogin, ()))

def PrivateTutorials.codec : Codec PrivateTutorials :=
  .record "PrivateTutorialsCapabilities"
    (.field "allowedIdPrefixes" (.list .text) .required .nil)
    (fun (marks, ()) => ⟨marks⟩)
    (fun t => (t.allowedIdPrefixes, ()))

def Classrooms.codec : Codec Classrooms :=
  .record "ClassroomsCapabilities"
    (.field "hideAskAi" .bool .required <|
      .field "hideAnnouncements" .bool .required <|
      .field "hidePlayTab" .bool .required <|
      .field "hideSocials" .bool .required <|
      .field "hidePremiumProducts" .bool .required <|
      .field "hideUpgradeNotice" .bool .required <|
      .field "showClassroomTab" .bool .required .nil)
    (fun (ai, announcements, play, socials, premium, upgrade, shown, ()) =>
      ⟨ai, announcements, play, socials, premium, upgrade, shown⟩)
    (fun c => (c.hideAskAi, c.hideAnnouncements, c.hidePlayTab, c.hideSocials,
      c.hidePremiumProducts, c.hideUpgradeNotice, c.showClassroomTab, ()))

def Multiplayer.codec : Codec Multiplayer :=
  .record "MultiplayerCapabilities"
    (.field "lobbiesCount" .int64 .required <|
      .field "maxPlayersPerLobby" .int64 .required <|
      .field "themeCustomizationCapabilities" ThemeCustomization.codec .required .nil)
    (fun (lobbies, players, theme, ()) => ⟨lobbies, players, theme⟩)
    (fun m => (m.lobbiesCount, m.maxPlayersPerLobby, m.themeCustomization, ()))

def VersionHistory.codec : Codec VersionHistory :=
  .record "VersionHistoryCapabilities"
    (.field "enabled" .bool .required .nil)
    (fun (enabled, ()) => ⟨enabled⟩)
    (fun v => (v.enabled, ()))

def Capabilities.codec : Codec Capabilities :=
  .record "Capabilities"
    (.field "analytics" Analytics.codec .required <|
      .field "cloudProjects" CloudProjects.codec .required <|
      .field "leaderboards" Leaderboards.codec .required <|
      .field "privateTutorials" (.option PrivateTutorials.codec) .optional <|
      .field "classrooms" (.option Classrooms.codec) .optional <|
      .field "multiplayer" Multiplayer.codec .required <|
      .field "versionHistory" VersionHistory.codec .required .nil)
    (fun (analytics, projects, boards, tutorials, classrooms, multiplayer, history, ()) =>
      ⟨analytics, projects, boards, tutorials, classrooms, multiplayer, history⟩)
    (fun c => (c.analytics, c.cloudProjects, c.leaderboards, c.privateTutorials, c.classrooms,
      c.multiplayer, c.versionHistory, ()))

def VariablePrice.codec : Codec VariablePrice :=
  .record "VariablePrice"
    (.field "minimumPriceInCredits" .int64 .required <|
      .field "maximumPriceInCredits" .int64 .required .nil)
    (fun (least, greatest, ()) => ⟨least, greatest⟩)
    (fun p => (p.minimumInCredits, p.maximumInCredits, ()))

def UsagePrice.codec : Codec UsagePrice :=
  .record "UsagePrice"
    (.field "priceInCredits" .int64 .required <|
      .field "variablePrice" (.option (.dict (.dict VariablePrice.codec))) .optional .nil)
    (fun (price, ranges, ()) => ⟨price, ranges⟩)
    (fun p => (p.inCredits, p.ranges, ()))

def PurchasableQuantity.codec : Codec PurchasableQuantity :=
  .record "PurchasableQuantity"
    (.field "purchasableQuantity" .int64 .required .nil)
    (fun (quantity, ()) => ⟨quantity⟩)
    (fun p => (p.quantity, ()))

def UserBalance.codec : Codec UserBalance :=
  .record "UserBalance"
    (.field "amount" .int64 .required .nil)
    (fun (amount, ()) => ⟨amount⟩)
    (fun b => (b.amount, ()))

def Credits.codec : Codec Credits :=
  .record "Credits"
    (.field "userBalance" UserBalance.codec .required <|
      .field "prices" (.dict UsagePrice.codec) (.default .empty) <|
      .field "purchasableQuantities" (.dict PurchasableQuantity.codec) (.default .empty) .nil)
    (fun (balance, prices, purchasable, ()) => ⟨balance, prices, purchasable⟩)
    (fun c => (c.balance, c.prices, c.purchasable, ()))

namespace Limits

def codec : Codec Limits :=
  .record "Limits"
    (.field "quotas" (.dict Quota.codec) (.default .empty) <|
      .field "capabilities" Capabilities.codec .required <|
      .field "credits" Credits.codec .required <|
      .field "message" (.option .text) .optional .nil)
    (fun (quotas, capabilities, credits, message, ()) => ⟨quotas, capabilities, credits, message⟩)
    (fun limits => (limits.quotas, limits.capabilities, limits.credits, limits.message, ()))

def quota? (limits : Limits) (name : String) : Option Quota :=
  limits.quotas.get? name

end Limits

end Entitlement
