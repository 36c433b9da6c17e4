import Mathlib.Data.List.Forall2

/-!
What is known of results that may be faults: how steps end that are made one after the other, and
what each of several results comes from. Lists that are related item by item are put together here
and taken apart.
-/

namespace Entitlement

universe u v

variable {ε ζ α β γ : Type}

theorem bind_ok (first : Except ε α) (next : α → Except ε β) (result : β) :
    (first >>= next) = .ok result ↔ ∃ value, first = .ok value ∧ next value = .ok result := by
  cases first with
  | error fault => simp [bind, Except.bind]
  | ok value => simp [bind, Except.bind]

theorem bind_error (first : Except ε α) (next : α → Except ε β) (fault : ε)
    (failed : (first >>= next) = .error fault) :
    first = .error fault ∨ ∃ value, first = .ok value ∧ next value = .error fault := by
  cases first with
  | error other => exact .inl (congrArg Except.error (Except.error.inj failed))
  | ok value => exact .inr ⟨value, rfl, failed⟩

theorem bind_return (first : Except ε α) (change : α → β) :
    (first >>= fun value => .ok (change value)) = first.map change := by
  cases first <;> rfl

theorem bind_same (first : Except ε α) :
    (first >>= fun value => .ok value) = first := by
  cases first <;> rfl

theorem map_ok (first : Except ε α) (change : α → β) (result : β) :
    first.map change = .ok result ↔ ∃ value, first = .ok value ∧ change value = result := by
  cases first with
  | error fault => simp [Except.map]
  | ok value => simp [Except.map]

theorem mapError_ok (outcome : Except ε α) (change : ε → ζ) (value : α) :
    outcome.mapError change = .ok value ↔ outcome = .ok value := by
  cases outcome with
  | ok held => exact ⟨fun same => congrArg _ (Except.ok.inj same),
      fun same => congrArg _ (Except.ok.inj same)⟩
  | error fault => exact ⟨nofun, nofun⟩

theorem mapError_error (outcome : Except ε α) (change : ε → ζ) (fault : ζ)
    (failed : outcome.mapError change = .error fault) :
    ∃ cause, outcome = .error cause ∧ fault = change cause := by
  cases outcome with
  | ok held => cases failed
  | error cause => exact ⟨cause, rfl, (Except.error.inj failed).symm⟩

theorem mapM_ok (read : α → Except ε β) (items : List α) (values : List β) :
    items.mapM read = .ok values ↔
      List.Forall₂ (fun item value => read item = .ok value) items values := by
  induction items generalizing values with
  | nil =>
      rw [List.mapM_nil, List.forall₂_nil_left_iff]
      exact ⟨fun same => (Except.ok.inj same).symm, fun same => same ▸ rfl⟩
  | cons item rest ih =>
      rw [List.mapM_cons, bind_ok, List.forall₂_cons_left_iff]
      constructor
      · rintro ⟨value, read, tail⟩
        obtain ⟨others, readRest, same⟩ := (bind_ok _ _ _).mp tail
        exact ⟨value, others, read, (ih others).mp readRest, (Except.ok.inj same).symm⟩
      · rintro ⟨value, others, read, readRest, rfl⟩
        exact ⟨value, read, (bind_ok _ _ _).mpr ⟨others, (ih others).mpr readRest, rfl⟩⟩

theorem forall₂_right {α : Type u} {β : Type v} {related : α → β → Prop} {left : List α}
    {right : List β} (all : List.Forall₂ related left right) :
    ∀ value ∈ right, ∃ partner ∈ left, related partner value := by
  induction all with
  | nil => exact fun value present => absurd present List.not_mem_nil
  | cons first _ ih =>
      intro value present
      rcases List.mem_cons.mp present with rfl | later
      · exact ⟨_, List.mem_cons_self, first⟩
      · obtain ⟨partner, inside, holds⟩ := ih value later
        exact ⟨partner, List.mem_cons_of_mem _ inside, holds⟩

theorem forall₂_choose {related : α → β → Prop} (items : List α)
    (each : ∀ item ∈ items, ∃ value, related item value) :
    ∃ values, List.Forall₂ related items values := by
  induction items with
  | nil => exact ⟨[], .nil⟩
  | cons item rest ih =>
      obtain ⟨⟨value, first⟩, each⟩ := List.forall_mem_cons.mp each
      obtain ⟨values, others⟩ := ih each
      exact ⟨value :: values, .cons first others⟩

theorem forall₂_through {related : α → β → Prop} {reads : α → γ → Prop}
    {alsoReads : β → γ → Prop} {places : List α} {others : List β} {values : List γ}
    (each : List.Forall₂ related places others) (read : List.Forall₂ reads places values)
    (through : ∀ place other value, related place other → reads place value →
      alsoReads other value) : List.Forall₂ alsoReads others values := by
  induction each generalizing values with
  | nil =>
      cases read
      exact .nil
  | cons first _ ih =>
      cases read with
      | cons head tail => exact .cons (through _ _ _ first head) (ih tail)

theorem forall₂_between {one : α → β → Prop} {other : β → γ → Prop} (items : List α)
    (values : List γ)
    (each : List.Forall₂ (fun item value => ∃ middle, one item middle ∧ other middle value) items
      values) :
    ∃ middles, List.Forall₂ one items middles ∧ List.Forall₂ other middles values := by
  induction each with
  | nil => exact ⟨[], .nil, .nil⟩
  | cons first _ ih =>
      obtain ⟨middle, one, other⟩ := first
      obtain ⟨middles, ones, others⟩ := ih
      exact ⟨middle :: middles, .cons one ones, .cons other others⟩

theorem forall₂_middle {related : α → β → Prop} (before after : List α) (item : α)
    (values : List β) (each : List.Forall₂ related (before ++ item :: after) values) :
    ∃ front value back, values = front ++ value :: back ∧ List.Forall₂ related before front ∧
      related item value ∧ List.Forall₂ related after back := by
  induction before generalizing values with
  | nil =>
      cases each with
      | cons first others => exact ⟨[], _, _, rfl, .nil, first, others⟩
  | cons head before ih =>
      cases each with
      | cons first others =>
          obtain ⟨front, value, back, rfl, ones, middle, rest⟩ := ih _ others
          exact ⟨_ :: front, value, back, rfl, .cons first ones, middle, rest⟩

end Entitlement
