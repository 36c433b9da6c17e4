import Entitlement.Inspector
import Entitlement.Proofs.Dependence
import Entitlement.Proofs.Results
import Entitlement.Proofs.Utf8

/-!
Calls that run together. Whatever arrives first, the whole ends with what all of its parts give
together, or with the failure of a part that failed.
-/

namespace Entitlement

variable {α β γ δ : Type}

/-- How a whole ends, by how its two parts end when each is waited for alone. -/
structure AllOrNothing (first : Except Failure α) (second : Except Failure β)
    (combine : α → β → γ) (whole : Except Failure γ) : Prop where
  all : ∀ value, whole = .ok value ↔ ∃ a b, first = .ok a ∧ second = .ok b ∧ value = combine a b
  onlyFirst : ∀ failure b, first = .error failure → second = .ok b → whole = .error failure
  onlySecond : ∀ a failure, first = .ok a → second = .error failure → whole = .error failure
  neither : ∀ failure other, first = .error failure → second = .error other →
    whole = .error failure ∨ whole = .error other

namespace AllOrNothing

variable {combine : α → β → γ}

theorem both (a : α) (b : β) : AllOrNothing (.ok a) (.ok b) combine (.ok (combine a b)) where
  all value := by simp [eq_comm]
  onlyFirst _ _ failed _ := nomatch failed
  onlySecond _ _ _ failed := nomatch failed
  neither _ _ failed _ := nomatch failed

theorem first (failure : Failure) (second : Except Failure β) :
    AllOrNothing (.error failure) second combine (.error failure) where
  all value := by simp
  onlyFirst _ _ failed _ := congrArg Except.error (Except.error.inj failed)
  onlySecond _ _ succeeded _ := nomatch succeeded
  neither _ _ failed _ := .inl (congrArg Except.error (Except.error.inj failed))

theorem second (first : Except Failure α) (failure : Failure) :
    AllOrNothing first (.error failure) combine (.error failure) where
  all value := by simp
  onlyFirst _ _ _ succeeded := nomatch succeeded
  onlySecond _ _ _ failed := congrArg Except.error (Except.error.inj failed)
  neither _ _ _ failed := .inr (congrArg Except.error (Except.error.inj failed))

variable {one : Except Failure α} {two : Except Failure β} {whole : Except Failure γ}

theorem map (parts : AllOrNothing one two combine whole) (change : γ → δ) :
    AllOrNothing one two (fun a b => change (combine a b)) (whole.map change) := by
  cases one with
  | error failure =>
      cases two with
      | error other =>
          rcases parts.neither failure other rfl rfl with rfl | rfl
          · exact first failure _
          · exact second _ other
      | ok b =>
          rw [parts.onlyFirst failure b rfl rfl]
          exact first failure _
  | ok a =>
      cases two with
      | error failure =>
          rw [parts.onlySecond a failure rfl rfl]
          exact second _ failure
      | ok b =>
          rw [(parts.all (combine a b)).mpr ⟨a, b, rfl, rfl, rfl⟩]
          exact both a b

/-- A failure of the whole is the failure of a part. -/
theorem blame (parts : AllOrNothing one two combine whole) (failure : Failure)
    (failed : whole = .error failure) : one = .error failure ∨ two = .error failure := by
  subst failed
  cases one with
  | error other =>
      cases two with
      | error another =>
          rcases parts.neither other another rfl rfl with same | same
          · exact .inl (congrArg Except.error (Except.error.inj same).symm)
          · exact .inr (congrArg Except.error (Except.error.inj same).symm)
      | ok b =>
          exact .inl (congrArg Except.error
            (Except.error.inj (parts.onlyFirst other b rfl rfl)).symm)
  | ok a =>
      cases two with
      | error other =>
          exact .inr (congrArg Except.error
            (Except.error.inj (parts.onlySecond a other rfl rfl)).symm)
      | ok b => exact nomatch (parts.all (combine a b)).mpr ⟨a, b, rfl, rfl, rfl⟩

end AllOrNothing

-- Two at once

theorem both_all_or_nothing (a : Pending α) (b : Pending β) :
    AllOrNothing a.outcome.result b.outcome.result Prod.mk (a.both b).outcome.result := by
  rw [Pending.both]
  cases a.outcome.result with
  | ok x =>
      cases b.outcome.result with
      | ok y => exact .both x y
      | error failure => exact .second _ failure
  | error failure =>
      cases b.outcome.result with
      | ok y => exact .first failure _
      | error other =>
          by_cases earlier : b.arrival < a.arrival
          · simp only [if_pos earlier]
            exact .second _ other
          · simp only [if_neg earlier]
            exact .first failure _

def Pending.result (started : Except Failure (Pending α)) : Except Failure α :=
  (Pending.settle started).result

theorem startBoth_all_or_nothing (first : Log → Except Failure (Pending α) × Log)
    (second : Log → Except Failure (Pending β) × Log) (log : Log) :
    AllOrNothing (Pending.result (first log).1) (Pending.result (second (first log).2).1) Prod.mk
      (Pending.result (Pending.startBoth first second log).1) := by
  rcases Pending.startBoth_cases first second log with
    ⟨failure, failed, whole⟩ | ⟨a, failure, ofA, failed, whole⟩ | ⟨a, b, ofA, ofB, whole⟩
  · rw [failed, whole]
    exact .first failure _
  · rw [ofA, failed, whole]
    exact .second _ failure
  · rw [ofA, ofB, whole]
    exact both_all_or_nothing a b

theorem result_andThen (started : Except Failure (Pending α)) (change : α → β)
    (warned : α → List Warning) :
    Pending.result (started.map fun pending => pending.andThen fun value =>
        ⟨.ok (change value), warned value⟩) =
      (Pending.result started).map change := by
  cases started with
  | error failure => rfl
  | ok pending =>
      rw [Pending.result, Pending.result, Except.map, Pending.settle, Pending.settle,
        Pending.andThen, Outcome.andThen]
      cases pending.outcome.result <;> rfl

-- One at a time

/-- A network that delivers the same in another order. -/
def Network.inOrder (network : Network) (arrival : Request → Nat) : Network :=
  { network with arrival }

theorem start_inOrder (endpoint : Endpoint α) (client : Client) (provider : Provider)
    (network : Network) (arrival : Request → Nat) (log : Log) :
    Pending.settle (endpoint.start client provider (network.inOrder arrival) log).1 =
        Pending.settle (endpoint.start client provider network log).1 ∧
      (endpoint.start client provider (network.inOrder arrival) log).2 =
        (endpoint.start client provider network log).2 := by
  rw [Endpoint.start, Endpoint.start]
  rcases endpoint.prepare client provider log with ⟨prepared, after⟩
  cases prepared <;> exact ⟨rfl, rfl⟩

theorem start_anyLog (endpoint : Endpoint α) (client : Client) (bearer : BearerToken)
    (network : Network) (log other : Log) :
    Pending.settle (endpoint.start client bearer.provider network log).1 =
      Pending.settle (endpoint.start client bearer.provider network other).1 := by
  have prepared : (endpoint.prepare client bearer.provider log).1 =
      (endpoint.prepare client bearer.provider other).1 := by
    rw [Endpoint.prepare, Endpoint.prepare]
    cases endpoint.isForUser <;> rfl
  rw [Endpoint.start, Endpoint.start]
  revert prepared
  rcases endpoint.prepare client bearer.provider log with ⟨request, after⟩
  rcases endpoint.prepare client bearer.provider other with ⟨otherRequest, otherAfter⟩
  rintro rfl
  cases request <;> rfl

theorem endpoints_all_or_nothing (first : Endpoint α) (second : Endpoint β) (client : Client)
    (provider : Provider) (network : Network) (arrival : Request → Nat) (log : Log) :
    AllOrNothing (Pending.result (first.start client provider network log).1)
      (Pending.result
        (second.start client provider network (first.start client provider network log).2).1)
      Prod.mk
      (Pending.result (Pending.startBoth (first.start client provider (network.inOrder arrival))
        (second.start client provider (network.inOrder arrival)) log).1) := by
  have ofFirst := start_inOrder first client provider network arrival log
  have ofSecond := start_inOrder second client provider network arrival
    (first.start client provider network log).2
  have together := startBoth_all_or_nothing
    (first.start client provider (network.inOrder arrival))
    (second.start client provider (network.inOrder arrival)) log
  rw [ofFirst.2] at together
  rwa [Pending.result, Pending.result, ofFirst.1, ofSecond.1] at together

-- The catalog

section Catalog

variable (client : Client) (provider : Provider) (network : Network) (arrival : Request → Nat)
  (log : Log) (includeLegacy : Bool) (userId : Option String)

/-- The catalog is what the plans and the prices give, whichever arrive first. -/
theorem catalog_all_or_nothing :
    let plans := (Call.plans includeLegacy userId).run client provider network log
    let prices := (Call.prices none includeLegacy userId).run client provider network plans.2
    AllOrNothing plans.1.result prices.1.result Catalog.join
      ((Call.catalog includeLegacy userId).run client provider (network.inOrder arrival)
        log).1.result := by
  intro plans prices
  have together := (endpoints_all_or_nothing (.plans includeLegacy userId)
    (.prices none includeLegacy userId) client provider network arrival log).map
      fun both => Catalog.join both.1 both.2
  rw [← result_andThen _ _ fun both => Warning.ofOrphans (Catalog.orphans both.1 both.2)]
    at together
  exact together

end Catalog

-- The inspector

section Inspection

variable (settings : InspectorSettings) (client : Client) (network : Network)
  (arrival : Request → Nat)

def InspectorSettings.fetched (call : Call α) : Except Failure α :=
  (call.run client settings.provider network .start).1.result

def InspectorSettings.plansCall : Call (List Plan) :=
  .plans settings.includeLegacy (some settings.userId)

def InspectorSettings.pricesCall : Call (List Price) :=
  .prices none settings.includeLegacy (some settings.userId)

/-- There is a report if everything was fetched, and it is made of what was fetched; without a
report there is the failure of something that was not fetched. -/
structure InspectorSettings.ReportsAll (now : Int) (outcome : Except InspectionFault Report) :
    Prop where
  all : ∀ report, outcome = .ok report ↔ ∃ plans prices subscription limits,
    settings.fetched client network settings.plansCall = .ok plans ∧
    settings.fetched client network settings.pricesCall = .ok prices ∧
    settings.fetched client network (.subscription settings.userId) = .ok subscription ∧
    settings.fetched client network (.limits settings.userId) = .ok limits ∧
    report = .build (Catalog.join plans prices) subscription limits settings.locale now
  blame : ∀ fault, outcome = .error fault → ∃ failure, fault = .service failure ∧
    (settings.fetched client network settings.plansCall = .error failure ∨
      settings.fetched client network settings.pricesCall = .error failure ∨
      settings.fetched client network (.subscription settings.userId) = .error failure ∨
      settings.fetched client network (.limits settings.userId) = .error failure)

-- Its token is always the same, so it does not matter what was asked for before.
theorem fetched_single (call : Call α) (endpoint : Endpoint α)
    (single : call.shape client.platform = .single endpoint) (log : Log) :
    Pending.result (call.start client settings.provider (network.inOrder arrival) log).1 =
      settings.fetched client network call := by
  rw [InspectorSettings.fetched, Call.run, Call.start, Call.start, single]
  refine congrArg Outcome.result (Eq.trans ?_
    (start_anyLog endpoint client ⟨settings.accessToken⟩ network log .start))
  exact (start_inOrder endpoint client settings.provider network arrival log).1

theorem fetched_catalog :
    AllOrNothing (settings.fetched client network settings.plansCall)
      (settings.fetched client network settings.pricesCall) Catalog.join
      (Pending.result (settings.catalogCall.start client settings.provider
        (network.inOrder arrival) .start).1) := by
  have together := catalog_all_or_nothing client settings.provider network arrival .start
    settings.includeLegacy (some settings.userId)
  have prices : settings.fetched client network settings.pricesCall =
      (settings.pricesCall.run client settings.provider network
        (settings.plansCall.run client settings.provider network .start).2).1.result :=
    congrArg Outcome.result
      (start_anyLog _ client ⟨settings.accessToken⟩ network .start _)
  rw [prices]
  exact together

theorem fetched_account (log : Log) :
    AllOrNothing (settings.fetched client network (.subscription settings.userId))
      (settings.fetched client network (.limits settings.userId)) Prod.mk
      (Pending.result (Pending.startBoth
        ((Call.subscription settings.userId).start client settings.provider
          (network.inOrder arrival))
        ((Call.limits settings.userId).start client settings.provider (network.inOrder arrival))
        log).1) := by
  have together := startBoth_all_or_nothing
    ((Call.subscription settings.userId).start client settings.provider (network.inOrder arrival))
    ((Call.limits settings.userId).start client settings.provider (network.inOrder arrival)) log
  rwa [fetched_single settings client network arrival _ _ rfl,
    fetched_single settings client network arrival _ _ rfl] at together

theorem inspect_reports (now : Int) (made : Client.ofSettings settings.client = .ok client) :
    settings.ReportsAll client network now
      ((Inspector.inspect .never settings (network.inOrder arrival) now).1.mapError .service) := by
  have catalog := fetched_catalog settings client network arrival
  have account := fetched_account settings client network arrival
    (settings.catalogCall.start client settings.provider (network.inOrder arrival) .start).2
  have whole := (startBoth_all_or_nothing
    (settings.catalogCall.start client settings.provider (network.inOrder arrival))
    (Pending.startBoth
      ((Call.subscription settings.userId).start client settings.provider (network.inOrder arrival))
      ((Call.limits settings.userId).start client settings.provider (network.inOrder arrival)))
    .start).map (settings.report now)
  have ends : (Inspector.inspect .never settings (network.inOrder arrival) now).1 =
      (Pending.result (settings.start client (network.inOrder arrival) .start).1).map
        (settings.report now) := by
    rw [Inspector.inspect, made]
    rfl
  rw [InspectorSettings.start] at ends
  rw [← ends] at whole
  constructor
  case all =>
    intro report
    rw [mapError_ok, whole.all]
    constructor
    · rintro ⟨_, _, gotCatalog, gotAccount, rfl⟩
      obtain ⟨plans, prices, gotPlans, gotPrices, rfl⟩ := (catalog.all _).mp gotCatalog
      obtain ⟨subscription, limits, gotSubscription, gotLimits, rfl⟩ :=
        (account.all _).mp gotAccount
      exact ⟨plans, prices, subscription, limits, gotPlans, gotPrices, gotSubscription, gotLimits,
        rfl⟩
    · rintro ⟨plans, prices, subscription, limits, gotPlans, gotPrices, gotSubscription, gotLimits,
        rfl⟩
      exact ⟨_, _, (catalog.all _).mpr ⟨plans, prices, gotPlans, gotPrices, rfl⟩,
        (account.all _).mpr ⟨subscription, limits, gotSubscription, gotLimits, rfl⟩, rfl⟩
  case blame =>
    intro fault failed
    obtain ⟨failure, stopped, rfl⟩ := mapError_error _ _ _ failed
    refine ⟨failure, rfl, ?_⟩
    rcases whole.blame failure stopped with ofCatalog | ofAccount
    · rcases catalog.blame failure ofCatalog with ofPlans | ofPrices
      · exact .inl ofPlans
      · exact .inr (.inl ofPrices)
    · rcases account.blame failure ofAccount with ofSubscription | ofLimits
      · exact .inr (.inr (.inl ofSubscription))
      · exact .inr (.inr (.inr ofLimits))

end Inspection

/-- In any order of arrival, a catalog needs both of its lists, and a report of the inspector needs
the catalog, the subscription and the limits. -/
theorem all_or_nothing_in_any_order :
    (∀ (client : Client) (provider : Provider) (network : Network) (arrival : Request → Nat)
        (log : Log) (includeLegacy : Bool) (userId : Option String),
      let plans := (Call.plans includeLegacy userId).run client provider network log
      let prices := (Call.prices none includeLegacy userId).run client provider network plans.2
      AllOrNothing plans.1.result prices.1.result Catalog.join
        ((Call.catalog includeLegacy userId).run client provider (network.inOrder arrival)
          log).1.result) ∧
    ∀ (environment : Environment) (file : Option String) (settings : InspectorSettings)
      (client : Client), Inspector.settings environment file = .ok settings →
      Client.ofSettings settings.client = .ok client →
      ∀ (network : Network) (arrival : Request → Nat) (now : Int),
        settings.ReportsAll client network now
          (Inspector.run environment file (network.inOrder arrival) now).1 := by
  refine ⟨catalog_all_or_nothing, ?_⟩
  intro environment file settings client configured made network arrival now
  rw [Inspector.run, Inspector.runUnless, configured]
  exact inspect_reports settings client network arrival now made

def homeEnvironment : Environment :=
  .ofTexts [("USAGE_API_URL", "http://[::1]"), ("USAGE_USER_ID", "ada"),
    ("USAGE_ACCESS_TOKEN", "secret")]

def homeSettings : InspectorSettings :=
  ⟨.ofBaseUrl "http://[::1]", "ada", "secret", "en", true⟩

def homeClient : Client := ⟨"http://[::1]", .desktop⟩

/-- A service that knows of no plans and prices and says nothing about accounts. -/
def listsOnly : Network where
  deliver request :=
    if request.url.path = .rooted ["limits".toList] then .closed
    else if request.url.path = .rooted ["subscription-v2".toList] then .closed
    else .answered ⟨200, Text.bytes "[]", true⟩
  arrival _ := 0

def Reply.holding (codec : Record.Codec α) (value : α) : Reply :=
  ⟨200, Text.bytesOf (codec.encode value).chars, true⟩

def oneAccount : Network where
  deliver request :=
    if request.url.path = .rooted ["limits".toList] then
      .answered (.holding Limits.codec Snapshot.bareLimits)
    else if request.url.path = .rooted ["subscription-v2".toList] then
      .answered (.holding Subscription.codec (.naming "P1" "PS1"))
    else if request.url.path = .rooted ["subscription-plan".toList] then
      .answered (.holding (.list Plan.codec) [.bare "P1" false])
    else .answered (.holding (.list Price.codec) [.monthly "PS1" "P1"])
  arrival _ := 0

/-- In any order of arrival, without what the account says there is no report, and with it there
is one. -/
theorem home_inspected (arrival : Request → Nat) (now : Int) :
    (Inspector.run homeEnvironment none (listsOnly.inOrder arrival) now).1 =
        .error (.service (.transport .closed)) ∧
      (Inspector.run homeEnvironment none (oneAccount.inOrder arrival) now).1 =
        .ok (.build [⟨.bare "P1" false, [.monthly "PS1" "P1"]⟩] (.naming "P1" "PS1")
          Snapshot.bareLimits "en" now) := by
  have reports (network : Network) :=
    all_or_nothing_in_any_order.2 homeEnvironment none homeSettings homeClient rfl rfl network
      arrival now
  constructor
  · have plans : homeSettings.fetched homeClient listsOnly homeSettings.plansCall = .ok [] := rfl
    have prices : homeSettings.fetched homeClient listsOnly homeSettings.pricesCall = .ok [] := rfl
    have subscription : homeSettings.fetched homeClient listsOnly (.subscription "ada") =
        .error (.transport .closed) := rfl
    have limits : homeSettings.fetched homeClient listsOnly (.limits "ada") =
        .error (.transport .closed) := rfl
    cases ended : (Inspector.run homeEnvironment none (listsOnly.inOrder arrival) now).1 with
    | ok report =>
        obtain ⟨_, _, _, _, _, _, gotSubscription, _⟩ := ((reports listsOnly).all report).mp ended
        cases subscription.symm.trans gotSubscription
    | error fault =>
        obtain ⟨failure, rfl, ofPlans | ofPrices | ofSubscription | ofLimits⟩ :=
          (reports listsOnly).blame fault ended
        · cases plans.symm.trans ofPlans
        · cases prices.symm.trans ofPrices
        · cases subscription.symm.trans ofSubscription
          rfl
        · cases limits.symm.trans ofLimits
          rfl
  · have plans : homeSettings.fetched homeClient oneAccount homeSettings.plansCall =
        .ok [.bare "P1" false] := by decide +kernel
    have prices : homeSettings.fetched homeClient oneAccount homeSettings.pricesCall =
        .ok [.monthly "PS1" "P1"] := by decide +kernel
    have subscription : homeSettings.fetched homeClient oneAccount (.subscription "ada") =
        .ok (.naming "P1" "PS1") := by decide +kernel
    have limits : homeSettings.fetched homeClient oneAccount (.limits "ada") =
        .ok Snapshot.bareLimits := by decide +kernel
    have joined : Catalog.join [.bare "P1" false] [.monthly "PS1" "P1"] =
        [⟨.bare "P1" false, [.monthly "PS1" "P1"]⟩] := by decide
    apply ((reports oneAccount).all _).mpr
    refine ⟨_, _, _, _, plans, prices, subscription, limits, ?_⟩
    rw [joined, homeSettings]

end Entitlement
