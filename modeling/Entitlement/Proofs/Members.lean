import Entitlement.Proofs.Decoding

/-!
A record read from an object or a list, from any source. The members of an object are brought
together by name, whatever their order: a field takes none of them or a single one that can be read,
and members that no field takes only have to be got past. The items of a list are those of the first
fields.
-/

namespace Entitlement.Record

open Json

variable {Place : Type}

-- Objects

def under (name : String) : List (Except Fault String × Place) → List Place
  | [] => []
  | (key, place) :: rest =>
      if key.toOption = some name then place :: under name rest else under name rest

theorem under_same (name : String) (place : Place) (rest : List (Except Fault String × Place)) :
    under name ((.ok name, place) :: rest) = place :: under name rest :=
  if_pos rfl

theorem under_other (name key : String) (place : Place)
    (rest : List (Except Fault String × Place)) (different : key ≠ name) :
    under name ((.ok key, place) :: rest) = under name rest :=
  if_neg fun same => different (Option.some.inj same)

theorem under_map {Other : Type} (change : Place → Other) (name : String)
    (members : List (Except Fault String × Place)) :
    under name (members.map fun member => (member.1, change member.2)) =
      (under name members).map change := by
  induction members with
  | nil => rfl
  | cons member rest ih =>
      by_cases hit : member.1.toOption = some name
      · simp only [List.map_cons, under, if_pos hit, ih]
      · simp only [List.map_cons, under, if_neg hit, ih]

theorem mem_under (name : String) (place : Place) (members : List (Except Fault String × Place))
    (present : (.ok name, place) ∈ members) : place ∈ under name members := by
  induction members with
  | nil => cases present
  | cons member rest ih =>
      rcases List.mem_cons.mp present with rfl | later
      · rw [under_same]
        exact List.mem_cons_self
      · rw [under]
        split
        · exact List.mem_cons_of_mem _ (ih later)
        · exact ih later

/-- A slot after some places have been met for it, each of which fills it. -/
def SlotTakes {α : Type} (read : Place → Except Fault α) : Option α → List Place → Option α → Prop
  | slot, [], after => after = slot
  | slot, place :: rest, after =>
      slot = none ∧ ∃ value, read place = .ok value ∧ SlotTakes read (some value) rest after

theorem slotTakes_blank {α : Type} (read : Place → Except Fault α) (places : List Place)
    (after : Option α) :
    SlotTakes read none places after ↔ (places = [] ∧ after = none) ∨
      ∃ place value, places = [place] ∧ read place = .ok value ∧ after = some value := by
  cases places with
  | nil =>
      constructor
      · exact fun same => .inl ⟨rfl, same⟩
      · rintro (⟨_, same⟩ | ⟨_, _, absurd, _⟩)
        · exact same
        · cases absurd
  | cons place rest =>
      constructor
      · rintro ⟨_, value, reads, more⟩
        cases rest with
        | nil => exact .inr ⟨place, value, rfl, reads, more⟩
        | cons next rest => cases more.1
      · rintro (⟨absurd, _⟩ | ⟨_, value, same, reads, rfl⟩)
        · cases absurd
        · cases same
          exact ⟨rfl, value, reads, rfl⟩

namespace Fields

variable {types : List Type}

def Takes (source : Source Place) : {types : List Type} → Fields types → Slots types →
    List (Except Fault String × Place) → Slots types → Prop
  | _, .nil, _, _, _ => True
  | _, .field name codec _ rest, (slot, slots), members, (after, afters) =>
      SlotTakes (codec.decode source) slot (under name members) after ∧
        rest.Takes source slots members afters

theorem takes_nil (source : Source Place) (fields : Fields types) (slots after : Slots types) :
    fields.Takes source slots [] after ↔ after = slots := by
  induction fields with
  | nil => exact ⟨fun _ => rfl, fun _ => trivial⟩
  | field name codec absence rest ih =>
      obtain ⟨slot, slots⟩ := slots
      obtain ⟨last, after⟩ := after
      rw [Takes, ih]
      exact Prod.mk.injEq .. ▸ Iff.rfl

theorem takes_unknown (source : Source Place) (fields : Fields types) (slots after : Slots types)
    (key : String) (place : Place) (members : List (Except Fault String × Place))
    (unknown : key ∉ fields.names) :
    fields.Takes source slots ((.ok key, place) :: members) after ↔
      fields.Takes source slots members after := by
  induction fields with
  | nil => exact Iff.rfl
  | field name codec absence rest ih =>
      obtain ⟨slot, slots⟩ := slots
      obtain ⟨last, after⟩ := after
      rw [names, List.mem_cons, not_or] at unknown
      rw [Takes, Takes, under_other name key place members unknown.1, ih _ _ unknown.2]

theorem put_unknown (source : Source Place) (fields : Fields types) (slots : Slots types)
    (key : String) (place : Place) (unknown : key ∉ fields.names) :
    fields.put source slots key place = .ok none := by
  induction fields with
  | nil => rfl
  | field name codec absence rest ih =>
      obtain ⟨slot, slots⟩ := slots
      rw [names, List.mem_cons, not_or] at unknown
      rw [put_later unknown.1, ih slots unknown.2]
      rfl

theorem takes_known (source : Source Place) (fields : Fields types) (slots after : Slots types)
    (key : String) (place : Place) (members : List (Except Fault String × Place))
    (named : fields.names.Nodup) (known : key ∈ fields.names) :
    fields.Takes source slots ((.ok key, place) :: members) after ↔
      ∃ filled, fields.put source slots key place = .ok (some filled) ∧
        fields.Takes source filled members after := by
  induction fields with
  | nil => cases known
  | field name codec absence rest ih =>
      obtain ⟨slot, slots⟩ := slots
      obtain ⟨last, after⟩ := after
      rw [names, List.nodup_cons] at named
      by_cases hit : key = name
      · subst hit
        rw [Takes, under_same, SlotTakes, takes_unknown source rest slots after key place members
          named.1, put_first]
        constructor
        · rintro ⟨⟨rfl, value, reads, takes⟩, others⟩
          exact ⟨(some value, slots), by rw [fillSlot, reads]; rfl, takes, others⟩
        · rintro ⟨⟨filled, others⟩, fills, takes, takesOthers⟩
          cases slot with
          | some held => cases fills
          | none =>
              obtain ⟨value, reads, same⟩ := (bind_ok _ _ _).mp fills
              cases same
              exact ⟨⟨rfl, value, reads, takes⟩, takesOthers⟩
      · have later : key ∈ rest.names := (List.mem_cons.mp known).resolve_left hit
        rw [Takes, under_other name key place members hit, ih slots after named.2 later,
          put_later hit]
        constructor
        · rintro ⟨takes, filled, fills, takesOthers⟩
          exact ⟨(slot, filled), by rw [fills]; rfl, takes, takesOthers⟩
        · rintro ⟨⟨first, others⟩, fills, takes, takesOthers⟩
          obtain ⟨met, inner, same⟩ := (map_ok _ _ _).mp fills
          cases met with
          | none => cases same
          | some filled =>
              cases same
              exact ⟨takes, _, inner, takesOthers⟩

/-- A member that a record can be read over: its key can be read, and it has a field or is got
past. -/
def Passable (source : Source Place) (fields : Fields types)
    (member : Except Fault String × Place) : Prop :=
  ∃ key, member.1 = .ok key ∧ (key ∈ fields.names ∨ source.skip member.2 = .ok ())

-- The induction is on the members that are still to come; the slots are what came of the others.
theorem meetMembers_ok (source : Source Place) (fields : Fields types)
    (named : fields.names.Nodup) (members : List (Except Fault String × Place))
    (slots after : Slots types) :
    meetMembers (fields.put source)
        (fun slots _ place => do
          source.skip place
          return slots) slots members = .ok after ↔
      (∀ member ∈ members, fields.Passable source member) ∧
        fields.Takes source slots members after := by
  induction members generalizing slots with
  | nil =>
      rw [takes_nil]
      exact ⟨fun same => ⟨nofun, (Except.ok.inj same).symm⟩, fun ⟨_, same⟩ => same ▸ rfl⟩
  | cons member rest ih =>
      obtain ⟨key, place⟩ := member
      rw [List.forall_mem_cons]
      cases key with
      | error fault =>
          refine ⟨nofun, fun ⟨⟨⟨_, same, _⟩, _⟩, _⟩ => ?_⟩
          cases same
      | ok key =>
          rw [meetMembers_cons, bind_ok]
          by_cases known : key ∈ fields.names
          · have passable : fields.Passable source (.ok key, place) := ⟨key, rfl, .inl known⟩
            rw [takes_known source fields slots after key place rest named known]
            constructor
            · rintro ⟨met, fills, more⟩
              cases met with
              | none =>
                  have missed := put_known source fields key place slots none fills
                  rw [List.contains_iff_mem.mpr known] at missed
                  cases missed
              | some filled =>
                  obtain ⟨passes, takes⟩ := (ih filled).mp more
                  exact ⟨⟨passable, passes⟩, filled, fills, takes⟩
            · rintro ⟨⟨_, passes⟩, filled, fills, takes⟩
              exact ⟨some filled, fills, (ih filled).mpr ⟨passes, takes⟩⟩
          · rw [takes_unknown source fields slots after key place rest known,
              put_unknown source fields slots key place known]
            constructor
            · rintro ⟨_, same, more⟩
              cases same
              obtain ⟨_, passed, more⟩ := (bind_ok _ _ _).mp more
              obtain ⟨_, skipped, same⟩ := (bind_ok _ _ _).mp passed
              cases same
              obtain ⟨passes, takes⟩ := (ih slots).mp more
              exact ⟨⟨⟨key, rfl, .inr skipped⟩, passes⟩, takes⟩
            · rintro ⟨⟨⟨_, same, passed⟩, passes⟩, takes⟩
              cases same
              have skipped := passed.resolve_left known
              refine ⟨none, rfl, ?_⟩
              dsimp only
              rw [skipped]
              exact (ih slots).mpr ⟨passes, takes⟩

/-- The row that an object gives: what stands once under the name of a field, or what a field is
that is absent. -/
def Given (source : Source Place) : {types : List Type} → Fields types →
    List (Except Fault String × Place) → Row types → Prop
  | _, .nil, _, _ => True
  | _, .field name codec absence rest, members, (value, row) =>
      ((under name members = [] ∧ absence.inObject = some value) ∨
        ∃ place, under name members = [place] ∧ codec.decode source place = .ok value) ∧
      rest.Given source members row

theorem close_field {α : Type} (name : String) (codec : Codec α) (absence : Absence α)
    (rest : Fields types) (slot : Option α) (slots : Slots types) (value : α) (row : Row types) :
    (field name codec absence rest).close (slot, slots) = .ok (value, row) ↔
      slot.or absence.inObject = some value ∧ rest.close slots = .ok row := by
  rw [close]
  cases slot.or absence.inObject with
  | none =>
      constructor
      · intro closes
        cases closes
      · rintro ⟨absent, _⟩
        cases absent
  | some held =>
      constructor
      · intro closes
        obtain ⟨others, closesOthers, same⟩ := (bind_ok _ _ _).mp closes
        cases same
        exact ⟨rfl, closesOthers⟩
      · rintro ⟨same, closesOthers⟩
        cases same
        exact (bind_ok _ _ _).mpr ⟨row, closesOthers, rfl⟩

theorem close_given (source : Source Place) (fields : Fields types)
    (members : List (Except Fault String × Place)) (row : Row types) :
    (∃ slots, fields.Takes source fields.blank members slots ∧ fields.close slots = .ok row) ↔
      fields.Given source members row := by
  induction fields with
  | nil => exact ⟨fun _ => trivial, fun _ => ⟨(), trivial, rfl⟩⟩
  | field name codec absence rest ih =>
      obtain ⟨value, row⟩ := row
      rw [Given, ← ih]
      constructor
      · rintro ⟨⟨slot, slots⟩, ⟨takes, takesOthers⟩, closes⟩
        obtain ⟨held, closesOthers⟩ := (close_field ..).mp closes
        refine ⟨?_, slots, takesOthers, closesOthers⟩
        rcases (slotTakes_blank ..).mp takes with ⟨nothing, rfl⟩ | ⟨place, read, single, reads, rfl⟩
        · exact .inl ⟨nothing, held⟩
        · cases held
          exact .inr ⟨place, single, reads⟩
      · rintro ⟨⟨nothing, absent⟩ | ⟨place, single, reads⟩, slots, takesOthers, closesOthers⟩
        · exact ⟨(none, slots), ⟨(slotTakes_blank ..).mpr (.inl ⟨nothing, rfl⟩), takesOthers⟩,
            (close_field ..).mpr ⟨absent, closesOthers⟩⟩
        · exact ⟨(some value, slots),
            ⟨(slotTakes_blank ..).mpr (.inr ⟨place, value, single, reads, rfl⟩), takesOthers⟩,
            (close_field ..).mpr ⟨rfl, closesOthers⟩⟩

-- Lists

/-- The row that a list gives: its items one after the other, and what a field is that a list stops
before. -/
def Listed (source : Source Place) : {types : List Type} → Fields types → List Place →
    Row types → Prop
  | _, .nil, _, _ => True
  | _, .field _ _ absence rest, [], (value, row) =>
      absence.inList = some value ∧ rest.Listed source [] row
  | _, .field _ codec _ rest, place :: places, (value, row) =>
      codec.decode source place = .ok value ∧ rest.Listed source places row

theorem take_listed (source : Source Place) (record : String) (total : Nat)
    (next : Option Fault) (fields : Fields types) (position : Nat) (places : List Place)
    (row : Row types) :
    fields.take source record total position next places = .ok row ↔
      fields.Listed source places row ∧ (places.length < fields.count → next = none) := by
  induction fields generalizing position places with
  | nil => exact ⟨fun _ => ⟨trivial, nofun⟩, fun _ => rfl⟩
  | field name codec absence rest ih =>
      obtain ⟨value, row⟩ := row
      cases places with
      | nil =>
          rw [take]
          constructor
          · intro takes
            obtain ⟨_, stops, taken⟩ := (bind_ok _ _ _).mp takes
            cases absent : absence.inList with
            | none =>
                rw [absent] at taken
                cases taken
            | some held =>
                rw [absent] at taken
                obtain ⟨others, takesOthers, same⟩ := (bind_ok _ _ _).mp taken
                cases same
                exact ⟨⟨absent, ((ih _ _ _).mp takesOthers).1⟩, fun _ => stopAt_ok.mp stops⟩
          · rintro ⟨⟨absent, listed⟩, ends⟩
            obtain rfl := ends (Nat.succ_pos _)
            rw [absent]
            exact (bind_ok _ _ _).mpr ⟨(), rfl, (bind_ok _ _ _).mpr
              ⟨row, (ih _ _ _).mpr ⟨listed, fun _ => rfl⟩, rfl⟩⟩
      | cons place places =>
          rw [take]
          constructor
          · intro takes
            obtain ⟨held, reads, taken⟩ := (bind_ok _ _ _).mp takes
            obtain ⟨others, takesOthers, same⟩ := (bind_ok _ _ _).mp taken
            cases same
            obtain ⟨listed, ends⟩ := (ih _ _ _).mp takesOthers
            exact ⟨⟨reads, listed⟩, fun short => ends (Nat.lt_of_succ_lt_succ short)⟩
          · rintro ⟨⟨reads, listed⟩, ends⟩
            have short : places.length < rest.count → next = none := fun fewer =>
              ends (Nat.succ_lt_succ fewer)
            exact (bind_ok _ _ _).mpr ⟨value, reads, (bind_ok _ _ _).mpr
              ⟨row, (ih _ _ _).mpr ⟨listed, short⟩, rfl⟩⟩

end Fields

/-- What a record is read as from an object: the object is intact, and each field is given once. -/
theorem record_object (source : Source Place) {α : Type} {types : List Type} (name : String)
    (fields : Fields types) (build : Row types → α) (parts : α → Row types)
    (named : fields.names.Nodup) (place : Place) (members : List (Except Fault String × Place))
    (next : Option Fault) (object : source.look place = .object (.ok members) next) (value : α) :
    (Codec.record name fields build parts).decode source place = .ok value ↔
      (∀ member ∈ members, fields.Passable source member) ∧ next = none ∧
        ∃ row, fields.Given source members row ∧ build row = value := by
  have unfolded : (Codec.record name fields build parts).decode source place =
      meetMembers (fields.put source)
        (fun slots _ place => do
          source.skip place
          return slots) fields.blank members >>= fun slots =>
        stopAt next >>= fun _ => fields.close slots >>= fun row => .ok (build row) := by
    rw [Codec.decode, object]
    rfl
  rw [unfolded, bind_ok]
  constructor
  · rintro ⟨slots, meets, ends⟩
    obtain ⟨passes, takes⟩ := (Fields.meetMembers_ok source fields named members _ slots).mp meets
    obtain ⟨_, stops, ends⟩ := (bind_ok _ _ _).mp ends
    obtain ⟨row, closes, same⟩ := (bind_ok _ _ _).mp ends
    exact ⟨passes, stopAt_ok.mp stops, row,
      (Fields.close_given source fields members row).mp ⟨slots, takes, closes⟩,
      Except.ok.inj same⟩
  · rintro ⟨passes, rfl, row, given, rfl⟩
    obtain ⟨slots, takes, closes⟩ := (Fields.close_given source fields members row).mpr given
    refine ⟨slots, (Fields.meetMembers_ok source fields named members _ slots).mpr
      ⟨passes, takes⟩, ?_⟩
    rw [closes]
    rfl

/-- What a record is read as from a list: its items are those of the first fields, and there are no
more items than fields. -/
theorem record_list (source : Source Place) {α : Type} {types : List Type} (name : String)
    (fields : Fields types) (build : Row types → α) (parts : α → Row types) (place : Place)
    (places : List Place) (next : Option Fault) (surplus : Nat → Option Fault)
    (list : source.look place = .list (.ok places) next surplus) (value : α) :
    (Codec.record name fields build parts).decode source place = .ok value ↔
      ((places.length < fields.count → next = none) ∧ surplus fields.count = none) ∧
        ∃ row, fields.Listed source places row ∧ build row = value := by
  have unfolded : (Codec.record name fields build parts).decode source place =
      fields.take source name fields.count 0 next places >>= fun row =>
        stopAt (surplus fields.count) >>= fun _ => .ok (build row) := by
    rw [Codec.decode, list]
    rfl
  rw [unfolded, bind_ok]
  constructor
  · rintro ⟨row, takes, ends⟩
    obtain ⟨listed, short⟩ := (Fields.take_listed ..).mp takes
    obtain ⟨_, stops, same⟩ := (bind_ok _ _ _).mp ends
    exact ⟨⟨short, stopAt_ok.mp stops⟩, row, listed, Except.ok.inj same⟩
  · rintro ⟨⟨short, ends⟩, row, listed, rfl⟩
    refine ⟨row, (Fields.take_listed ..).mpr ⟨listed, short⟩, ?_⟩
    rw [ends]
    rfl

/-- A tree that is a list gives a record if it is not longer than the record is. -/
theorem decode_listed {source : Source Tree} {α : Type} {types : List Type}
    (reads : source.ReadsTrees) (name : String)
    (fields : Fields types) (build : Row types → α) (parts : α → Row types) (items : List Tree)
    (value : α) :
    (Codec.record name fields build parts).decode source (.list items) = .ok value ↔
      items.length ≤ fields.count ∧ ∃ row, fields.Listed source items row ∧ build row = value := by
  obtain ⟨surplus, emptyPayload, exact⟩ := reads
  rw [record_list _ name fields build parts (.list items) items none (surplus items.length) rfl,
    exact]
  exact and_congr_left' ⟨And.right, fun short => ⟨fun _ => rfl, short⟩⟩

end Entitlement.Record
