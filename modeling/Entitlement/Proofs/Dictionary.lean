import Entitlement.Record.Dict

/-!
What a map holds under each key once it has been changed, and which keys it has. A change under one
key is seen under that key and nowhere else, whatever the order of the entries.
-/

namespace Entitlement

open Json

variable {α : Type}

theorem member_put (key other : String) (value : α) (entries : List (String × α)) :
    memberOf other (putSorted key value entries) =
      if other = key then some value else memberOf other entries := by
  induction entries with
  | nil => simp [putSorted, memberOf]
  | cons first rest ih =>
      obtain ⟨head, old⟩ := first
      by_cases before : key < head
      · simp [putSorted, memberOf, before]
      · by_cases same : key = head
        · subst head
          by_cases hit : other = key <;> simp [putSorted, memberOf, hit]
        · by_cases hit : other = head
          · have different : head ≠ key := Ne.symm same
            simp [putSorted, memberOf, before, same, hit, different]
          · simp [putSorted, memberOf, before, same, hit, ih]

theorem member_without (key other : String) (entries : List (String × α)) :
    memberOf other (entries.filter fun entry => entry.1 != key) =
      if other = key then none else memberOf other entries := by
  induction entries with
  | nil => simp [memberOf]
  | cons first rest ih =>
      obtain ⟨head, value⟩ := first
      by_cases gone : head = key
      · subst head
        rw [List.filter_cons_of_neg (by simp), ih]
        by_cases hit : other = key <;> simp [memberOf, hit]
      · by_cases hit : other = head
        · subst other
          simp [memberOf, gone]
        · simp [memberOf, gone, hit, ih]

theorem member_absent (key : String) (entries : List (String × α)) :
    memberOf key entries = none ↔ ∀ entry ∈ entries, entry.1 ≠ key := by
  induction entries with
  | nil => simp [memberOf]
  | cons first rest ih =>
      obtain ⟨head, value⟩ := first
      by_cases hit : key = head
      · simp [memberOf, hit]
      · simp [memberOf, hit, ih, Ne.symm hit]

theorem member_fresh (key : String) (entries : List (String × α))
    (fresh : key ∉ entries.map (·.1)) : memberOf key entries = none := by
  rw [member_absent]
  exact fun entry present same => fresh (List.mem_map.mpr ⟨entry, present, same⟩)

theorem ascending_nodup (entries : List (String × α)) (sorted : Ascending entries) :
    (entries.map (·.1)).Nodup := by
  rw [ascending_iff_pairwise] at sorted
  rw [List.nodup_iff_pairwise_ne, List.pairwise_map]
  refine sorted.imp fun smaller same => ?_
  rw [same] at smaller
  exact String.lt_irrefl _ smaller

namespace Dict

theorem get?_insert (dict : Dict α) (key other : String) (value : α) :
    (dict.insert key value).get? other = if other = key then some value else dict.get? other :=
  member_put key other value dict.entries

theorem get?_erase (dict : Dict α) (key other : String) :
    (dict.erase key).get? other = if other = key then none else dict.get? other :=
  member_without key other dict.entries

-- The keys of a map

theorem mem_keys (dict : Dict α) (key : String) :
    key ∈ dict.keys ↔ dict.get? key ≠ none := by
  unfold keys get?
  rw [ne_eq, member_absent]
  simp

theorem mem_keys_insert (dict : Dict α) (key other : String) (value : α) :
    other ∈ (dict.insert key value).keys ↔ other = key ∨ other ∈ dict.keys := by
  simp only [mem_keys, get?_insert]
  by_cases hit : other = key <;> simp [hit]

theorem mem_keys_erase (dict : Dict α) (key other : String) :
    other ∈ (dict.erase key).keys ↔ other ≠ key ∧ other ∈ dict.keys := by
  simp only [mem_keys, get?_erase]
  by_cases hit : other = key <;> simp [hit]

theorem keys_nodup (dict : Dict α) : dict.keys.Nodup :=
  ascending_nodup dict.entries dict.ascending

end Dict

end Entitlement
