import Entitlement.Proofs.Dictionary

/-!
Trees in canonical form: the members of every object in key order, each key once. Sorting keeps the
last value given for a key, and a sorted list is known by what it holds under each key.
-/

namespace Entitlement

open Json

variable {α : Type}

-- What is held under a key

theorem member_mem (key : String) (value : α) (entries : List (String × α))
    (found : memberOf key entries = some value) : (key, value) ∈ entries := by
  induction entries with
  | nil => cases found
  | cons first rest ih =>
      obtain ⟨head, other⟩ := first
      by_cases hit : key = head
      · simp_all [memberOf]
      · rw [memberOf, if_neg hit] at found
        exact List.mem_cons_of_mem _ (ih found)

theorem member_of_mem (entry : String × α) (entries : List (String × α))
    (distinct : (entries.map (·.1)).Nodup) (present : entry ∈ entries) :
    memberOf entry.1 entries = some entry.2 := by
  induction entries with
  | nil => cases present
  | cons first rest ih =>
      rw [List.map_cons, List.nodup_cons] at distinct
      rcases List.mem_cons.mp present with same | later
      · subst entry
        simp [memberOf]
      · have different : entry.1 ≠ first.1 := fun same =>
          distinct.1 (List.mem_map.mpr ⟨entry, later, same⟩)
        rw [memberOf, if_neg different]
        exact ih distinct.2 later

theorem member_append (key : String) (before after : List (String × α)) :
    memberOf key (before ++ after) = (memberOf key before).or (memberOf key after) := by
  induction before with
  | nil => rfl
  | cons first rest ih =>
      obtain ⟨head, value⟩ := first
      by_cases hit : key = head <;> simp [memberOf, hit, ih]

theorem member_filter (key : String) (kept : String → Bool) (entries : List (String × α)) :
    memberOf key (entries.filter fun entry => kept entry.1) =
      if kept key then memberOf key entries else none := by
  induction entries with
  | nil => simp [memberOf]
  | cons first rest ih =>
      obtain ⟨head, value⟩ := first
      by_cases hit : key = head
      · subst head
        cases keep : kept key <;> simp [memberOf, keep, ih]
      · cases keep : kept head <;> simp [memberOf, keep, hit, ih]

theorem member_map {β : Type} (key : String) (change : α → β) (entries : List (String × α)) :
    memberOf key (entries.map fun entry => (entry.1, change entry.2)) =
      (memberOf key entries).map change := by
  induction entries with
  | nil => rfl
  | cons first rest ih =>
      obtain ⟨head, value⟩ := first
      by_cases hit : key = head <;> simp [memberOf, hit, ih]

theorem member_reverse (key : String) (entries : List (String × α))
    (distinct : (entries.map (·.1)).Nodup) :
    memberOf key entries.reverse = memberOf key entries := by
  induction entries with
  | nil => rfl
  | cons first rest ih =>
      obtain ⟨head, value⟩ := first
      rw [List.map_cons, List.nodup_cons] at distinct
      rw [List.reverse_cons, member_append, ih distinct.2]
      by_cases hit : key = head
      · subst head
        simp [memberOf, member_fresh key rest distinct.1]
      · simp [memberOf, hit]

-- Entries in key order

theorem ascending_below (first : String × α) (rest : List (String × α))
    (sorted : Ascending (first :: rest)) : ∀ entry ∈ rest, first.1 < entry.1 := by
  rw [ascending_iff_pairwise, List.pairwise_cons] at sorted
  exact sorted.1

theorem ascending_absent (first : String × α) (rest : List (String × α))
    (sorted : Ascending (first :: rest)) : memberOf first.1 rest = none := by
  rw [member_absent]
  intro entry present same
  exact String.lt_irrefl _ (same ▸ ascending_below first rest sorted entry present)

theorem ascending_map {β : Type} (change : α → β) (entries : List (String × α))
    (sorted : Ascending entries) :
    Ascending (entries.map fun entry => (entry.1, change entry.2)) := by
  rw [ascending_iff_pairwise] at sorted ⊢
  exact List.pairwise_map.mpr sorted

theorem ascending_sort (entries : List (String × α)) : Ascending (sortMembers entries) := by
  have fold : ∀ (entries sorted : List (String × α)), Ascending sorted →
      Ascending
        (entries.foldl (fun sorted member => putSorted member.1 member.2 sorted) sorted) := by
    intro entries
    induction entries with
    | nil => exact fun _ sorted => sorted
    | cons first rest ih =>
        intro sorted ascending
        exact ih _ (ascending_put first.1 first.2 sorted ascending)
  exact fold entries [] trivial

theorem sort_distinct (entries : List (String × α)) :
    ((sortMembers entries).map (·.1)).Nodup :=
  ascending_nodup _ (ascending_sort entries)

theorem member_sort (key : String) (entries : List (String × α)) :
    memberOf key (sortMembers entries) = memberOf key entries.reverse := by
  have fold : ∀ entries sorted : List (String × α),
      memberOf key
          (entries.foldl (fun sorted member => putSorted member.1 member.2 sorted) sorted) =
        (memberOf key entries.reverse).or (memberOf key sorted) := by
    intro entries
    induction entries with
    | nil => exact fun _ => rfl
    | cons first rest ih =>
        intro sorted
        obtain ⟨head, value⟩ := first
        rw [List.foldl_cons, ih, member_put, List.reverse_cons, member_append, Option.or_assoc]
        by_cases hit : key = head <;> simp [memberOf, hit]
  rw [sortMembers, fold]
  exact Option.or_none

theorem sort_mem (entry : String × α) (entries : List (String × α))
    (present : entry ∈ sortMembers entries) : entry ∈ entries := by
  have held := member_of_mem entry _ (sort_distinct entries) present
  rw [member_sort] at held
  exact List.mem_reverse.mp (member_mem entry.1 entry.2 _ held)

theorem ascending_least (first : String × α) (rest : List (String × α)) (key : String)
    (sorted : Ascending (first :: rest)) (held : memberOf key (first :: rest) ≠ none) :
    ¬ key < first.1 := by
  intro smaller
  apply held
  rw [member_absent]
  intro entry present same
  subst key
  rcases List.mem_cons.mp present with same | later
  · subst entry
    exact String.lt_irrefl _ smaller
  · exact String.lt_irrefl _
      (String.lt_trans (ascending_below first rest sorted entry later) smaller)

/-- Two sorted lists that hold the same under every key are the same list. -/
theorem ascending_ext (left right : List (String × α)) (leftSorted : Ascending left)
    (rightSorted : Ascending right) (agree : ∀ key, memberOf key left = memberOf key right) :
    left = right := by
  induction left generalizing right with
  | nil =>
      cases right with
      | nil => rfl
      | cons first rest => simpa [memberOf] using agree first.1
  | cons first rest ih =>
      cases right with
      | nil => simpa [memberOf] using agree first.1
      | cons other others =>
          have least : ¬ other.1 < first.1 :=
            ascending_least first rest other.1 leftSorted (by rw [agree]; simp [memberOf])
          have alsoLeast : ¬ first.1 < other.1 :=
            ascending_least other others first.1 rightSorted (by rw [← agree]; simp [memberOf])
          have sameKey : first.1 = other.1 := by
            rcases Std.lt_trichotomy first.1 other.1 with less | equal | greater
            · exact absurd less alsoLeast
            · exact equal
            · exact absurd greater least
          obtain ⟨key, value⟩ := first
          obtain ⟨otherKey, otherValue⟩ := other
          cases sameKey
          have sameValue : value = otherValue := by simpa [memberOf] using agree key
          have sameRest : rest = others := by
            refine ih others (ascending_tail leftSorted) (ascending_tail rightSorted) ?_
            intro wanted
            by_cases hit : wanted = key
            · subst wanted
              rw [ascending_absent (key, value) rest leftSorted,
                ascending_absent (key, otherValue) others rightSorted]
            · simpa [memberOf, hit] using agree wanted
          rw [sameValue, sameRest]

namespace Dict

theorem mem_entries (dict : Dict α) (key : String) (value : α) :
    (key, value) ∈ dict.entries ↔ dict.get? key = some value := by
  constructor
  · intro member
    exact member_of_mem (key, value) dict.entries dict.keys_nodup member
  · intro held
    exact member_mem key value dict.entries held

/-- A map is known by what it holds under each key. -/
theorem get?_ext (left right : Dict α) (agree : ∀ key, left.get? key = right.get? key) :
    left = right := by
  obtain ⟨entries, sorted⟩ := left
  obtain ⟨others, otherSorted⟩ := right
  obtain rfl := ascending_ext entries others sorted otherSorted agree
  rfl

theorem insert_comm (dict : Dict α) (key other : String) (value another : α)
    (different : key ≠ other) :
    (dict.insert key value).insert other another =
      (dict.insert other another).insert key value := by
  apply get?_ext
  intro wanted
  simp only [get?_insert]
  by_cases hit : wanted = other
  · have apart : wanted ≠ key := fun same => different (same.symm.trans hit)
    rw [if_pos hit, if_neg apart, if_pos hit]
  · rw [if_neg hit, if_neg hit]

theorem insert_again (dict : Dict α) (key : String) (value another : α) :
    (dict.insert key value).insert key another = dict.insert key another := by
  apply get?_ext
  intro wanted
  simp only [get?_insert]
  by_cases hit : wanted = key
  · rw [if_pos hit, if_pos hit]
  · rw [if_neg hit, if_neg hit, if_neg hit]

end Dict

theorem member_sort_distinct (key : String) (entries : List (String × α))
    (distinct : (entries.map (·.1)).Nodup) :
    memberOf key (sortMembers entries) = memberOf key entries := by
  rw [member_sort, member_reverse key entries distinct]

theorem sort_ascending (entries : List (String × α)) (sorted : Ascending entries) :
    sortMembers entries = entries := by
  refine ascending_ext _ _ (ascending_sort entries) sorted fun key => ?_
  exact member_sort_distinct key entries (ascending_nodup entries sorted)

theorem sort_filter (kept : String → Bool) (entries : List (String × α)) :
    sortMembers (entries.filter fun entry => kept entry.1) =
      (sortMembers entries).filter fun entry => kept entry.1 := by
  refine ascending_ext _ _ (ascending_sort _) (ascending_filter _ _ (ascending_sort entries))
    fun key => ?_
  rw [member_sort, ← List.filter_reverse, member_filter, member_filter, member_sort]

/-- An entry is not seen if its key comes again behind it. -/
theorem sort_shadowed (key : String) (value : α) (before after : List (String × α))
    (again : ∃ entry ∈ after, entry.1 = key) :
    sortMembers (before ++ (key, value) :: after) = sortMembers (before ++ after) := by
  obtain ⟨later, held⟩ : ∃ later, memberOf key after.reverse = some later := by
    rw [← Option.ne_none_iff_exists', ne_eq, member_absent]
    obtain ⟨entry, present, same⟩ := again
    exact fun absent => absent entry (List.mem_reverse.mpr present) same
  refine ascending_ext _ _ (ascending_sort _) (ascending_sort _) fun wanted => ?_
  simp only [member_sort, List.reverse_append, List.reverse_cons, member_append]
  by_cases hit : wanted = key
  · simp [hit, held]
  · simp [memberOf, hit]

theorem put_between (key : String) (entries : List (String × α))
    (absent : ∀ entry ∈ entries, entry.1 ≠ key) :
    ∃ before after, before ++ after = entries ∧
      ∀ value, putSorted key value entries = before ++ (key, value) :: after := by
  induction entries with
  | nil => exact ⟨[], [], rfl, fun _ => rfl⟩
  | cons first rest ih =>
      by_cases smaller : key < first.1
      · refine ⟨[], first :: rest, rfl, fun value => ?_⟩
        rw [putSorted, if_pos smaller]
        rfl
      · have different : key ≠ first.1 := (absent first List.mem_cons_self).symm
        obtain ⟨before, after, same, put⟩ :=
          ih fun entry present => absent entry (List.mem_cons_of_mem _ present)
        refine ⟨first :: before, after, by rw [List.cons_append, same], fun value => ?_⟩
        rw [putSorted, if_neg smaller, if_neg different, put]
        rfl

/-- An entry whose key does not come again stands at a place that does not depend on its value. -/
theorem sort_placed (key : String) (before after : List (String × α))
    (last : ∀ entry ∈ after, entry.1 ≠ key) :
    ∃ front back,
      front ++ back = sortMembers ((before ++ after).filter fun entry => entry.1 != key) ∧
      ∀ value, sortMembers (before ++ (key, value) :: after) = front ++ (key, value) :: back := by
  have others : ∀ entry ∈ sortMembers ((before ++ after).filter fun entry => entry.1 != key),
      entry.1 ≠ key := by
    rw [sort_filter (· != key)]
    intro entry present
    simpa using (List.mem_filter.mp present).2
  obtain ⟨front, back, same, put⟩ := put_between key _ others
  refine ⟨front, back, same, fun value => ?_⟩
  rw [← put value]
  refine ascending_ext _ _ (ascending_sort _) (ascending_put key value _ (ascending_sort _))
    fun wanted => ?_
  have unheld : memberOf key after.reverse = none := by
    rw [member_absent]
    exact fun entry present => last entry (List.mem_reverse.mp present)
  rw [member_put, sort_filter (· != key), member_filter wanted (· != key)]
  simp only [member_sort, List.reverse_append, List.reverse_cons, member_append]
  by_cases hit : wanted = key
  · simp [memberOf, hit, unheld]
  · simp [memberOf, hit]

-- Trees

namespace Json.Tree

theorem canonicalItems_map (items : List Tree) : canonicalItems items = items.map canonical := by
  induction items with
  | nil => rfl
  | cons item rest ih => rw [canonicalItems, ih, List.map_cons]

theorem canonicalMembers_map (members : List (String × Tree)) :
    canonicalMembers members = members.map fun member => (member.1, member.2.canonical) := by
  induction members with
  | nil => rfl
  | cons member rest ih => rw [canonicalMembers, ih, List.map_cons]

theorem canonical_list (items : List Tree) :
    (Tree.list items).canonical = .list (items.map canonical) := by
  rw [canonical, canonicalItems_map]

theorem canonical_object (members : List (String × Tree)) :
    (Tree.object members).canonical =
      .object (sortMembers (members.map fun member => (member.1, member.2.canonical))) := by
  rw [canonical, canonicalMembers_map]

/-- What a sorted object holds under a name is what the last member of that name is. -/
theorem canonical_member (key : String) (members : List (String × Tree)) :
    memberOf key (sortMembers (members.map fun member => (member.1, member.2.canonical))) =
      (memberOf key members.reverse).map canonical := by
  rw [member_sort, ← List.map_reverse, member_map]

theorem canonical_text (tree : Tree) (value : String) :
    tree.canonical = .text value ↔ tree = .text value := by
  cases tree with
  | list items =>
      rw [canonical_list]
      exact ⟨nofun, nofun⟩
  | object members =>
      rw [canonical_object]
      exact ⟨nofun, nofun⟩
  | _ => exact Iff.rfl

theorem canonical_int (tree : Tree) (value : Int) :
    tree.canonical = .int value ↔ tree = .int value := by
  cases tree with
  | list items =>
      rw [canonical_list]
      exact ⟨nofun, nofun⟩
  | object members =>
      rw [canonical_object]
      exact ⟨nofun, nofun⟩
  | _ => exact Iff.rfl

/-- The members of every object are in key order. -/
inductive Sorted : Tree → Prop
  | null : Sorted .null
  | bool (value : Bool) : Sorted (.bool value)
  | number (value : Number) : Sorted (.number value)
  | text (value : String) : Sorted (.text value)
  | list (items : List Tree) (each : ∀ item ∈ items, Sorted item) : Sorted (.list items)
  | object (members : List (String × Tree)) (ascending : Ascending members)
      (each : ∀ member ∈ members, Sorted member.2) : Sorted (.object members)

mutual

theorem canonical_sorted : (tree : Tree) → tree.canonical.Sorted
  | .null => .null
  | .bool value => .bool value
  | .number value => .number value
  | .text value => .text value
  | .list items => .list _ (canonicalItems_sorted items)
  | .object members => by
      refine .object _ (ascending_sort _) fun member present => ?_
      exact canonicalMembers_sorted members member (sort_mem member _ present)

theorem canonicalItems_sorted : (items : List Tree) → ∀ item ∈ canonicalItems items, item.Sorted
  | [], _, present => by cases present
  | first :: rest, item, present => by
      rcases List.mem_cons.mp present with same | later
      · exact same ▸ canonical_sorted first
      · exact canonicalItems_sorted rest item later

theorem canonicalMembers_sorted : (members : List (String × Tree)) →
    ∀ member ∈ canonicalMembers members, member.2.Sorted
  | [], _, present => by cases present
  | (key, value) :: rest, member, present => by
      rcases List.mem_cons.mp present with same | later
      · exact same ▸ canonical_sorted value
      · exact canonicalMembers_sorted rest member later

end

theorem Sorted.canonical_same {tree : Tree} (sorted : tree.Sorted) : tree.canonical = tree := by
  induction sorted with
  | null => rfl
  | bool value => rfl
  | number value => rfl
  | text value => rfl
  | list items each ih =>
      rw [canonical_list, List.map_congr_left ih, List.map_id']
  | object members ascending each ih =>
      have same : members.map (fun member => (member.1, member.2.canonical)) = members :=
        (List.map_congr_left fun member present => by rw [ih member present]).trans
          (List.map_id' members)
      rw [canonical_object, same, sort_ascending members ascending]

end Json.Tree

end Entitlement
