import Entitlement.Proofs.Patching

/-!
Runs of changes. A change touches one part of an account, and the catalog is the only part that a
change works out from another one. So what is shown of an account after a run of changes is the same
without those changes that only touch parts it is not made of.
-/

namespace Entitlement

open Json

inductive AccountPart where
  | catalog
  | subscription
  | limits
  | clock
  | locale
  deriving DecidableEq, Repr

def Change.part : Change → AccountPart
  | .setCatalog _ | .addOffer _ | .joinCatalog .. | .addAtPrices .. | .keepAvailable
  | .keepLegacy => .catalog
  | .setSubscription _ | .patchSubscription _ => .subscription
  | .setLimits _ => .limits
  | .setNow _ => .clock
  | .setLocale _ => .locale

namespace Account

structure SameIn (parts : AccountPart → Bool) (account other : Account) : Prop where
  catalog : parts .catalog = true → account.catalog = other.catalog
  subscription : parts .subscription = true → account.subscription = other.subscription
  limits : parts .limits = true → account.limits = other.limits
  now : parts .clock = true → account.now = other.now
  locale : parts .locale = true → account.locale = other.locale

variable {parts : AccountPart → Bool}

theorem SameIn.refl (parts : AccountPart → Bool) (account : Account) :
    account.SameIn parts account :=
  ⟨fun _ => rfl, fun _ => rfl, fun _ => rfl, fun _ => rfl, fun _ => rfl⟩

theorem SameIn.symm {account other : Account} (same : account.SameIn parts other) :
    other.SameIn parts account :=
  ⟨fun part => (same.catalog part).symm, fun part => (same.subscription part).symm,
    fun part => (same.limits part).symm, fun part => (same.now part).symm,
    fun part => (same.locale part).symm⟩

theorem SameIn.everywhere {others : AccountPart → Bool} {account other : Account}
    (same : account.SameIn parts other) (also : account.SameIn others other)
    (all : ∀ part, parts part = true ∨ others part = true) : account = other := by
  cases account
  cases other
  congr
  · exact (all .catalog).elim same.catalog also.catalog
  · exact (all .subscription).elim same.subscription also.subscription
  · exact (all .limits).elim same.limits also.limits
  · exact (all .clock).elim same.now also.now
  · exact (all .locale).elim same.locale also.locale

theorem SameIn.trans {account other third : Account} (same : account.SameIn parts other)
    (also : other.SameIn parts third) : account.SameIn parts third :=
  ⟨fun part => (same.catalog part).trans (also.catalog part),
    fun part => (same.subscription part).trans (also.subscription part),
    fun part => (same.limits part).trans (also.limits part),
    fun part => (same.now part).trans (also.now part),
    fun part => (same.locale part).trans (also.locale part)⟩

-- One change

theorem apply_patch (account : Account) (patch : Tree) :
    account.apply (.patchSubscription patch) =
      match account.subscription with
      | none => .ok account
      | some held => (patched held patch).map fun next =>
          { account with subscription := some next } := by
  rw [apply]
  cases held : account.subscription with
  | none =>
      cases account
      cases held
      rfl
  | some subscription => cases outcome : patched subscription patch <;>
      simp [outcome, bind, Except.bind, Except.map, pure, Except.pure]

/-- Only a patch can be refused, and then by the subscription that it is laid over. -/
theorem apply_refused (account : Account) (change : Change) (fault : Fault) :
    account.apply change = .error fault ↔ ∃ patch held, change = .patchSubscription patch ∧
      account.subscription = some held ∧ patched held patch = .error fault := by
  cases change with
  | patchSubscription patch =>
      rw [apply_patch]
      cases account.subscription with
      | none => simp
      | some held => cases outcome : patched held patch <;> simp [outcome, Except.map]
  | _ => simp [apply]

theorem changed_patch (account : Account) (patch : Tree) :
    account.changed (.patchSubscription patch) =
      { account with subscription := account.subscription.map fun held =>
          (patched held patch).toOption.getD held } := by
  rw [changed, apply_patch]
  cases account with
  | mk catalog subscription limits now locale =>
      cases subscription with
      | none => rfl
      | some held =>
          cases outcome : patched held patch <;> simp [outcome, Except.map, Except.toOption]

/-- A change leaves the parts that it does not touch as they are. -/
theorem changed_elsewhere (account : Account) (change : Change)
    (untouched : parts change.part = false) : (account.changed change).SameIn parts account := by
  cases change with
  | patchSubscription patch =>
      rw [changed_patch]
      constructor <;> intro part <;> first | rfl | exact nomatch part.symm.trans untouched
  | _ => constructor <;> intro part <;> first | rfl | exact nomatch part.symm.trans untouched

/-- A change does the same to accounts that have the same in the parts it is worked out from. -/
theorem changed_same {account other : Account} (change : Change)
    (closed : parts .catalog = true → parts .subscription = true)
    (same : account.SameIn parts other) (touched : parts change.part = true) :
    (account.changed change).SameIn parts (other.changed change) := by
  cases change with
  | patchSubscription patch =>
      rw [changed_patch, changed_patch, same.subscription touched]
      exact { same with subscription := fun _ => rfl }
  | setCatalog catalog => exact { same with catalog := fun _ => rfl }
  | addOffer offer =>
      exact { same with catalog := fun part => congrArg (· ++ [offer]) (same.catalog part) }
  | joinCatalog plans prices => exact { same with catalog := fun _ => rfl }
  | addAtPrices planId prices =>
      refine { same with catalog := fun part => ?_ }
      change account.catalog ++ _ = other.catalog ++ _
      rw [same.catalog part]
  | keepAvailable =>
      exact { same with catalog := fun part => congrArg Catalog.available (same.catalog part) }
  | keepLegacy =>
      refine { same with catalog := fun part => ?_ }
      change (account.catalog.legacyOffer? account.subscription).toList =
        (other.catalog.legacyOffer? other.subscription).toList
      rw [same.catalog part, same.subscription (closed part)]
  | setSubscription subscription => exact { same with subscription := fun _ => rfl }
  | setLimits limits => exact { same with limits := fun _ => rfl }
  | setNow now => exact { same with now := fun _ => rfl }
  | setLocale locale => exact { same with locale := fun _ => rfl }

-- Runs

/-- Parts that no change touches stay as they are. -/
theorem after_elsewhere (account : Account) (changes : List Change)
    (untouched : ∀ change ∈ changes, parts change.part = false) :
    (account.after changes).SameIn parts account := by
  induction changes generalizing account with
  | nil => exact .refl parts account
  | cons change rest ih =>
      obtain ⟨first, others⟩ := List.forall_mem_cons.mp untouched
      exact (ih (account.changed change) others).trans (changed_elsewhere account change first)

/-- Changes of other parts can be left out. -/
theorem after_same {account other : Account} (changes : List Change)
    (closed : parts .catalog = true → parts .subscription = true)
    (same : account.SameIn parts other) :
    (account.after changes).SameIn parts
      (other.after (changes.filter fun change => parts change.part)) := by
  induction changes generalizing account other with
  | nil => exact same
  | cons change rest ih =>
      cases touched : parts change.part with
      | false =>
          rw [List.filter_cons, touched, if_neg Bool.false_ne_true]
          exact ih ((changed_elsewhere account change touched).trans same)
      | true =>
          rw [List.filter_cons, touched, if_pos rfl]
          exact ih (changed_same change closed same touched)

/-- A run is the run of the changes that are not refused. -/
theorem after_accepted (account : Account) (changes : List Change) :
    ∃ accepted : List Change, accepted.Sublist changes ∧
      accepted.foldlM apply account = .ok (account.after changes) := by
  induction changes generalizing account with
  | nil => exact ⟨[], .refl [], rfl⟩
  | cons change rest ih =>
      obtain ⟨accepted, among, runs⟩ := ih (account.changed change)
      cases outcome : account.apply change with
      | error fault =>
          have unchanged : account.changed change = account := by rw [changed, outcome]
          rw [unchanged] at runs
          refine ⟨accepted, among.cons change, ?_⟩
          rw [runs, after, after, List.foldl_cons, unchanged]
      | ok next =>
          have taken : account.changed change = next := by rw [changed, outcome]
          rw [taken] at runs
          refine ⟨change :: accepted, among.cons_cons change, ?_⟩
          rw [List.foldlM_cons, outcome, after, List.foldl_cons, taken]
          exact runs

/-- The order of two changes does not matter if one of them is of the limits, the clock or the
locale and the other one is not of the same part. -/
theorem changed_comm (account : Account) (one two : Change) (apart : one.part ≠ two.part)
    (noCatalog : two.part ≠ .catalog) (noSubscription : two.part ≠ .subscription) :
    (account.changed one).changed two = (account.changed two).changed one := by
  have others (changes : List Change) := after_same changes (by simp [noSubscription.symm])
    (.refl (fun part => part != two.part) account)
  have alone (changes : List Change) := after_same changes (by simp [noCatalog.symm])
    (.refl (fun part => part == two.part) account)
  have first := others [one, two]
  have firstToo := others [two, one]
  have second := alone [one, two]
  have secondToo := alone [two, one]
  simp only [List.filter_cons, List.filter_nil, bne_self_eq_false, bne_iff_ne.mpr apart,
    beq_self_eq_true, beq_eq_false_iff_ne.mpr apart, if_true, Bool.false_eq_true, if_false]
    at first firstToo second secondToo
  refine (first.trans firstToo.symm).everywhere (second.trans secondToo.symm) fun part => ?_
  by_cases same : part = two.part <;> simp [same]

end Account

open Account

/-- The entitlement is worked out from all parts but the locale. -/
def AccountPart.entitles : AccountPart → Bool
  | .locale => false
  | _ => true

/-- The features that are listed come from the catalog, which is worked out from the subscription,
in the locale. -/
def AccountPart.lists : AccountPart → Bool
  | .limits | .clock => false
  | _ => true

/-- What is shown of an account after any changes is not affected by those it is not made of. -/
structure Account.ShowsItsParts (account : Account) (changes : List Change) : Prop where
  entitlement : (account.after changes).entitlement =
    (account.after (changes.filter fun change => change.part.entitles)).entitlement
  features : (account.after changes).features =
    (account.after (changes.filter fun change => change.part.lists)).features

theorem Account.shows_its_parts (account : Account) (changes : List Change) :
    account.ShowsItsParts changes where
  entitlement := by
    have same := after_same changes (fun _ => rfl) (.refl AccountPart.entitles account)
    rw [Account.entitlement, Account.entitlement, same.catalog rfl, same.subscription rfl,
      same.limits rfl, same.now rfl]
  features := by
    have same := after_same changes (fun _ => rfl) (.refl AccountPart.lists account)
    rw [Account.features, Account.features, same.catalog rfl, same.locale rfl]

end Entitlement
