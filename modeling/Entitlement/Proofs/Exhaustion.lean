import Mathlib.Data.List.Sort
import Entitlement.Report
import Entitlement.Proofs.ByteOrder
import Entitlement.Proofs.Canonical
import Entitlement.Proofs.Dependence

/-!
The names of the quotas that are used up. They are sorted after they have been collected, so the
order in which the quotas were met leaves no trace, and each name is met once.
-/

namespace Entitlement

def Limits.UsedUp (limits : Limits) (name : String) : Prop :=
  ∃ quota, limits.quotas.get? name = some quota ∧ quota.limitReached = true

namespace Quotas

theorem mem_exhausted (quotas : List (String × Quota)) (name : String) :
    name ∈ exhausted quotas ↔ ∃ quota, (name, quota) ∈ quotas ∧ quota.limitReached = true := by
  unfold exhausted
  rw [List.mem_mergeSort, List.mem_map]
  constructor
  · rintro ⟨⟨_, quota⟩, kept, rfl⟩
    exact ⟨quota, List.mem_filter.mp kept⟩
  · rintro ⟨quota, listed, reached⟩
    exact ⟨(name, quota), List.mem_filter.mpr ⟨listed, reached⟩, rfl⟩

theorem exhausted_nodup (quotas : List (String × Quota)) (distinct : (quotas.map (·.1)).Nodup) :
    (exhausted quotas).Nodup := by
  have kept : ((quotas.filter fun entry => entry.2.limitReached).map (·.1)).Nodup :=
    distinct.sublist (List.filter_sublist.map Prod.fst)
  exact (List.mergeSort_perm _ _).nodup_iff.mpr kept

theorem exhausted_sorted (quotas : List (String × Quota)) :
    (exhausted quotas).Pairwise fun earlier later => earlier ≤ later := by
  have sorted : (exhausted quotas).Pairwise fun earlier later =>
      decide (earlier ≤ later) = true := by
    apply List.pairwise_mergeSort
    · intro a b c first second
      simp only [decide_eq_true_eq] at first second ⊢
      exact String.le_trans first second
    · intro a b
      simpa using String.le_total a b
  exact sorted.imp of_decide_eq_true

/-- Sorted names that are all different ascend strictly. -/
theorem exhausted_ascending (quotas : List (String × Quota))
    (distinct : (quotas.map (·.1)).Nodup) :
    (exhausted quotas).Pairwise fun earlier later => earlier < later := by
  refine ((exhausted_sorted quotas).and (exhausted_nodup quotas distinct)).imp ?_
  rintro earlier later ⟨order, different⟩
  apply String.not_le.mp
  intro back
  exact different (String.le_antisymm order back)

/-- A list that ascends strictly is known by what it holds. -/
theorem exhausted_known (one other : List (String × Quota)) (oneDistinct : (one.map (·.1)).Nodup)
    (otherDistinct : (other.map (·.1)).Nodup)
    (same : ∀ name, name ∈ exhausted one ↔ name ∈ exhausted other) :
    exhausted one = exhausted other :=
  (exhausted_ascending one oneDistinct).eq_of_mem_iff (exhausted_ascending other otherDistinct) same

end Quotas

namespace Report

theorem mem_exhaustedQuotas (catalog : Catalog) (subscription : Subscription) (limits : Limits)
    (locale : String) (now : Int) (name : String) :
    name ∈ (build catalog subscription limits locale now).exhaustedQuotas ↔
      limits.UsedUp name := by
  show name ∈ Quotas.exhausted limits.quotas.entries ↔ limits.UsedUp name
  rw [Quotas.mem_exhausted]
  exact exists_congr fun quota => and_congr_left fun _ => limits.quotas.mem_entries name quota

/-- A report lists the quotas that are used up and no others, each name once and in the order of its
bytes. The list is the same in whatever order the quotas are met, and nothing but which of them are
used up decides it. -/
theorem exhausted_canonical (catalog : Catalog) (subscription : Subscription) (locale : String)
    (now : Int) :
    (∀ limits,
      (build catalog subscription limits locale now).exhaustedQuotas.Pairwise fun earlier later =>
        Text.bytes earlier < Text.bytes later) ∧
    (∀ limits name, name ∈ (build catalog subscription limits locale now).exhaustedQuotas ↔
      limits.UsedUp name) ∧
    (∀ limits met, met.Perm limits.quotas.entries →
      (build catalog subscription limits locale now).exhaustedQuotas = Quotas.exhausted met) ∧
    (∀ one other, (∀ name, one.UsedUp name ↔ other.UsedUp name) →
      (build catalog subscription one locale now).exhaustedQuotas =
        (build catalog subscription other locale now).exhaustedQuotas) := by
  have listed := fun limits => mem_exhaustedQuotas catalog subscription limits locale now
  refine ⟨?ascending, listed, ?anyOrder, ?decided⟩
  case ascending =>
    intro limits
    refine (Quotas.exhausted_ascending limits.quotas.entries limits.quotas.keys_nodup).imp ?_
    intro earlier later
    exact (Text.bytes_lt_iff earlier later).mpr
  case anyOrder =>
    intro limits met order
    have distinct : (met.map (·.1)).Nodup :=
      (order.map Prod.fst).nodup_iff.mpr limits.quotas.keys_nodup
    refine Quotas.exhausted_known _ _ limits.quotas.keys_nodup distinct fun name => ?_
    simp only [Quotas.mem_exhausted, order.mem_iff]
  case decided =>
    intro one other same
    refine Quotas.exhausted_known _ _ one.quotas.keys_nodup other.quotas.keys_nodup fun name => ?_
    exact (listed one name).trans ((same name).trans (listed other name).symm)

def busyLimits : Limits :=
  { Snapshot.bareLimits with
    quotas := ⟨[("builds", ⟨true, 5, 5, none⟩), ("previews", ⟨false, 1, 9, none⟩),
      ("épreuves", ⟨true, 3, 2, some .oneDay⟩)], by decide, by decide, trivial⟩ }

def strictLimits : Limits :=
  { Snapshot.bareLimits with
    quotas := ⟨[("builds", ⟨true, 0, 0, some .thirtyDays⟩), ("épreuves", ⟨true, 7, 7, none⟩)],
      by decide, trivial⟩ }

theorem busy_limits_exhausted :
    let listed := fun limits => (build [] (.naming "P1" "PS1") limits "en" 0).exhaustedQuotas
    "épreuves" ∈ listed busyLimits ∧ "previews" ∉ listed busyLimits ∧
    busyLimits.quotas.entries.reverse.Perm busyLimits.quotas.entries ∧
    listed busyLimits = Quotas.exhausted busyLimits.quotas.entries.reverse ∧
    (∀ name, busyLimits.UsedUp name ↔ strictLimits.UsedUp name) ∧
    listed busyLimits = listed strictLimits := by
  intro listed
  obtain ⟨_, exact, anyOrder, decided⟩ := exhausted_canonical [] (.naming "P1" "PS1") "en" 0
  have order := List.reverse_perm busyLimits.quotas.entries
  have same : ∀ name, busyLimits.UsedUp name ↔ strictLimits.UsedUp name := by
    intro name
    simp [Limits.UsedUp, ← Dict.mem_entries, busyLimits, strictLimits, or_and_right, exists_or,
      and_assoc]
  refine ⟨(exact busyLimits _).mpr ⟨⟨true, 3, 2, some .oneDay⟩, by decide, rfl⟩, ?unused, order,
    anyOrder _ _ order, same, decided _ _ same⟩
  case unused =>
    intro member
    obtain ⟨quota, held, reached⟩ := (exact busyLimits _).mp member
    cases held
    cases reached

end Report

end Entitlement
