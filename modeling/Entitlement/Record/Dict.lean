import Entitlement.Json.Tree

/-!
Maps from texts to values, with their entries in key order. One map has one representation, so
equality of maps is equality of what they hold.
-/

namespace Entitlement

open Json

/-- Entries by strictly ascending key. -/
def Ascending {α : Type} : List (String × α) → Prop
  | [] => True
  | [_] => True
  | first :: second :: rest => first.1 < second.1 ∧ Ascending (second :: rest)

theorem ascending_tail {α : Type} {first : String × α} {rest : List (String × α)}
    (sorted : Ascending (first :: rest)) : Ascending rest := by
  cases rest with
  | nil => trivial
  | cons second rest => exact sorted.2

-- The key is put somewhere behind an entry with a smaller key, so that entry stays first.
theorem ascending_cons_put {α : Type} {first : String × α} {rest : List (String × α)}
    (key : String) (value : α) (smaller : first.1 < key) (sorted : Ascending (first :: rest))
    (inner : Ascending (putSorted key value rest)) :
    Ascending (first :: putSorted key value rest) := by
  cases rest with
  | nil => exact ⟨smaller, inner⟩
  | cons second rest =>
      unfold putSorted at inner ⊢
      split
      · exact ⟨smaller, by simpa [*] using inner⟩
      · split
        · exact ⟨smaller, by simp_all⟩
        · exact ⟨sorted.1, by simp_all⟩

theorem ascending_put {α : Type} (key : String) (value : α) (entries : List (String × α))
    (sorted : Ascending entries) : Ascending (putSorted key value entries) := by
  induction entries with
  | nil => trivial
  | cons first rest ih =>
      have inner := ih (ascending_tail sorted)
      unfold putSorted
      split
      · next before => exact ⟨before, sorted⟩
      · next notBefore =>
          split
          · next same =>
              cases rest with
              | nil => trivial
              | cons second rest => exact ⟨same ▸ sorted.1, sorted.2⟩
          · next differs =>
              refine ascending_cons_put key value ?_ sorted inner
              rcases Std.lt_trichotomy first.1 key with less | equal | greater
              · exact less
              · exact absurd equal.symm differs
              · exact absurd greater notBefore

-- Neighbours in order are enough: keys further apart follow by transitivity.
theorem ascending_iff_pairwise {α : Type} (entries : List (String × α)) :
    Ascending entries ↔ entries.Pairwise fun earlier later => earlier.1 < later.1 := by
  induction entries with
  | nil => simp [Ascending]
  | cons first rest ih =>
      cases rest with
      | nil => simp [Ascending]
      | cons second rest =>
          rw [Ascending, ih, @List.pairwise_cons _ _ first]
          constructor
          · rintro ⟨smaller, sorted⟩
            refine ⟨fun entry member => ?_, sorted⟩
            rcases List.mem_cons.mp member with same | later
            · exact same ▸ smaller
            · exact String.lt_trans smaller ((List.pairwise_cons.mp sorted).1 entry later)
          · rintro ⟨smaller, sorted⟩
            exact ⟨smaller second List.mem_cons_self, sorted⟩

theorem ascending_filter {α : Type} (kept : String × α → Bool) (entries : List (String × α))
    (sorted : Ascending entries) : Ascending (entries.filter kept) := by
  rw [ascending_iff_pairwise] at sorted ⊢
  exact sorted.filter kept

structure Dict (α : Type) where
  entries : List (String × α)
  ascending : Ascending entries

namespace Dict

variable {α : Type}

def empty : Dict α := ⟨[], trivial⟩

instance : EmptyCollection (Dict α) := ⟨empty⟩
instance : Inhabited (Dict α) := ⟨empty⟩

def insert (dict : Dict α) (key : String) (value : α) : Dict α :=
  ⟨putSorted key value dict.entries, ascending_put key value dict.entries dict.ascending⟩

def erase (dict : Dict α) (key : String) : Dict α :=
  ⟨dict.entries.filter fun entry => entry.1 != key, ascending_filter _ dict.entries dict.ascending⟩

def get? (dict : Dict α) (key : String) : Option α :=
  memberOf key dict.entries

def keys (dict : Dict α) : List String := dict.entries.map (·.1)

/-- The map of the entries of a list, later entries replacing earlier ones. -/
def ofList (entries : List (String × α)) : Dict α :=
  entries.foldl (fun dict entry => dict.insert entry.1 entry.2) empty

def isEmpty (dict : Dict α) : Bool := dict.entries.isEmpty

instance [DecidableEq α] : DecidableEq (Dict α) := fun a b =>
  if same : a.entries = b.entries then isTrue (by cases a; cases b; simp_all)
  else isFalse fun equal => same (congrArg entries equal)

end Dict

end Entitlement
