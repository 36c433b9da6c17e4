import Entitlement.Proofs.Members

/-!
Reading from any source: what a place has to show to be read as a given value, for the codecs that
look at parts of a value. The keys of an object can be read and differ, so a map and the fields of a
record take each member by its name.
-/

namespace Entitlement.Record

open Json

variable {Place : Type} {α : Type} {types : List Type}

/-- A named value is read from a tag of its name whose payload, if there is any, holds nothing. -/
theorem choice_ok (source : Source Place) (known : List α) (name : α → String) (place : Place)
    (value : α) :
    (Codec.choice known name).decode source place = .ok value ↔
      ∃ tag text, source.tag place = .ok tag ∧ tag.name = .ok text ∧
        known.find? (fun value => name value == text) = some value ∧
          ∀ payload, tag.payload = some payload →
            source.unit payload = .ok () ∧ tag.surplus = none := by
  rw [Codec.decode, readChoice, bind_ok]
  constructor
  · rintro ⟨tag, tagged, read⟩
    obtain ⟨text, nameRead, read⟩ := (bind_ok _ _ _).mp read
    refine ⟨tag, text, tagged, nameRead, ?_⟩
    cases found : known.find? fun value => name value == text with
    | none => simp [found] at read
    | some held =>
        rw [found] at read
        cases payload : tag.payload with
        | none =>
            rw [payload] at read
            cases read
            refine ⟨rfl, fun _ absent => ?_⟩
            cases absent
        | some inside =>
            rw [payload] at read
            obtain ⟨_, accepted, read⟩ := (bind_ok _ _ _).mp read
            obtain ⟨_, stops, read⟩ := (bind_ok _ _ _).mp read
            cases read
            refine ⟨rfl, fun payload same => ?_⟩
            cases same
            exact ⟨accepted, stopAt_ok.mp stops⟩
  · rintro ⟨tag, text, tagged, nameRead, found, accepted⟩
    refine ⟨tag, tagged, (bind_ok _ _ _).mpr ⟨text, nameRead, ?_⟩⟩
    rw [found]
    cases payload : tag.payload with
    | none => rfl
    | some inside =>
        obtain ⟨unit, nothing⟩ := accepted inside payload
        exact (bind_ok _ _ _).mpr ⟨(), unit, (bind_ok _ _ _).mpr
          ⟨(), stopAt_ok.mpr nothing, rfl⟩⟩

-- Objects

/-- What comes of a map when the members of an object are put into it. -/
theorem entries_ok (read : Place → Except Fault α) (members : List (String × Place))
    (keys : (members.map (·.1)).Nodup) (start dict : Dict α) :
    members.foldlM (fun dict member => (read member.2).map (dict.insert member.1)) start =
        .ok dict ↔
      ∀ key, (memberOf key members = none ∧ dict.get? key = start.get? key) ∨
        ∃ place value, memberOf key members = some place ∧ read place = .ok value ∧
          dict.get? key = some value := by
  induction members generalizing start with
  | nil =>
      constructor
      · intro same
        cases same
        exact fun key => Or.inl ⟨rfl, rfl⟩
      · intro each
        refine congrArg Except.ok (Dict.get?_ext start dict fun key => ?_)
        rcases each key with ⟨_, same⟩ | ⟨place, value, held, _, _⟩
        · exact same.symm
        · cases held
  | cons member rest ih =>
      obtain ⟨head, first⟩ := member
      rw [List.map_cons, List.nodup_cons] at keys
      have absent := member_fresh head rest keys.1
      rw [List.foldlM_cons, bind_ok]
      constructor
      · rintro ⟨next, put, follows⟩ key
        obtain ⟨value, decoded, rfl⟩ := (map_ok _ _ _).mp put
        have later := (ih keys.2 _).mp follows key
        rw [Dict.get?_insert] at later
        rw [memberOf]
        by_cases hit : key = head
        · subst hit
          rw [absent, if_pos rfl] at later
          rcases later with ⟨_, same⟩ | ⟨_, _, held, _⟩
          · exact Or.inr ⟨first, value, if_pos rfl, decoded, same⟩
          · cases held
        · rwa [if_neg hit] at later ⊢
      · intro each
        obtain ⟨place, value, held, decoded, same⟩ :=
          (each head).resolve_left fun missing => by simp [memberOf] at missing
        rw [memberOf, if_pos rfl] at held
        cases held
        refine ⟨start.insert head value, by rw [decoded]; rfl, (ih keys.2 _).mpr fun key => ?_⟩
        have later := each key
        rw [Dict.get?_insert]
        rw [memberOf] at later
        by_cases hit : key = head
        · subst hit
          rw [if_pos rfl]
          exact Or.inl ⟨absent, same⟩
        · rwa [if_neg hit] at later ⊢

/-- The entries of a map are read from the members of an object, key by key. -/
theorem dict_members (source : Source Place) (codec : Codec α) (place : Place)
    (members : List (String × Place)) (keys : (members.map (·.1)).Nodup)
    (object : source.look place = .object (.ok (named members)) none) (dict : Dict α) :
    codec.dict.decode source place = .ok dict ↔
      ∀ key, Option.Rel (fun place value => codec.decode source place = .ok value)
        (memberOf key members) (dict.get? key) := by
  rw [decode_named source place codec members object, entries_ok _ members keys]
  refine forall_congr' fun key => ?_
  constructor
  · rintro (⟨missing, unset⟩ | ⟨place, value, held, decoded, set⟩)
    · rw [missing, unset]
      exact .none
    · rw [held, set]
      exact .some decoded
  · intro related
    generalize memberOf key members = held at related
    generalize dict.get? key = set at related
    cases related with
    | some decoded => exact Or.inr ⟨_, _, rfl, decoded, rfl⟩
    | none => exact Or.inl ⟨rfl, rfl⟩

theorem under_named (name : String) (members : List (String × Place))
    (keys : (members.map (·.1)).Nodup) :
    under name (named members) = (memberOf name members).toList := by
  induction members with
  | nil => rfl
  | cons member rest ih =>
      obtain ⟨key, place⟩ := member
      rw [List.map_cons, List.nodup_cons] at keys
      by_cases hit : key = name
      · subst hit
        rw [memberOf, if_pos rfl]
        refine (under_same key place (named rest)).trans ?_
        rw [ih keys.2, member_fresh key rest keys.1]
        rfl
      · rw [memberOf, if_neg (Ne.symm hit)]
        exact (under_other name key place (named rest) hit).trans (ih keys.2)

/-- A field by what an object has under its name. -/
theorem given_field (source : Source Place) (name : String) (codec : Codec α)
    (absence : Absence α) (rest : Fields types) (members : List (String × Place))
    (keys : (members.map (·.1)).Nodup) (value : α) (row : Row types) :
    (Fields.field name codec absence rest).Given source (named members) (value, row) ↔
      ((memberOf name members = none ∧ absence.inObject = some value) ∨
        ∃ place, memberOf name members = some place ∧ codec.decode source place = .ok value) ∧
      rest.Given source (named members) row := by
  rw [Fields.Given, under_named name members keys]
  cases memberOf name members <;> simp

-- Flattened records

def unknown (own : Fields types) (members : List (String × Place)) : List (String × Place) :=
  members.filter fun member => !own.names.contains member.1

def SetAside (source : Source Place) (member : String × Place) (aside : String × Tree) : Prop :=
  member.1 = aside.1 ∧ source.whole member.2 = .ok aside.2

/-- The members of a flattened record, each met by a field of its own or else set aside. -/
def sortOut (source : Source Place) (own : Fields types)
    (state : Slots types × List (String × Tree)) (members : List (String × Place)) :
    Except Fault (Slots types × List (String × Tree)) :=
  meetMembers
    (fun state key place => do
      return (← own.put source state.1 key place).map fun slots => (slots, state.2))
    (fun state key place => do
      return (state.1, state.2 ++ [(key, ← source.whole place)]))
    state (named members)

theorem sortOut_cons (source : Source Place) (own : Fields types) (slots : Slots types)
    (held : List (String × Tree)) (key : String) (place : Place)
    (rest : List (String × Place)) :
    sortOut source own (slots, held) ((key, place) :: rest) =
      own.put source slots key place >>= fun met => match met with
        | some filled => sortOut source own (filled, held) rest
        | none => source.whole place >>= fun tree =>
            sortOut source own (slots, held ++ [(key, tree)]) rest := by
  rw [sortOut, named, List.map_cons, meetMembers_cons]
  cases own.put source slots key place with
  | error fault => rfl
  | ok met =>
      cases met with
      | some filled => rfl
      | none => cases source.whole place <;> rfl

/-- Members with a field fill its slot, the others are set aside in their order. -/
theorem sortOut_ok (source : Source Place) (own : Fields types) (ownNamed : own.names.Nodup)
    (members : List (String × Place)) (slots after : Slots types)
    (held aside : List (String × Tree)) :
    sortOut source own (slots, held) members = .ok (after, aside) ↔
      own.Takes source slots (named members) after ∧
        ∃ more, aside = held ++ more ∧
          List.Forall₂ (SetAside source) (unknown own members) more := by
  induction members generalizing slots held with
  | nil =>
      rw [named, List.map_nil, Fields.takes_nil, unknown, List.filter_nil]
      simp only [List.forall₂_nil_left_iff, exists_eq_right, List.append_nil]
      constructor
      · intro same
        cases same
        exact ⟨rfl, rfl⟩
      · rintro ⟨rfl, rfl⟩
        rfl
  | cons member rest ih =>
      obtain ⟨key, place⟩ := member
      have front : named ((key, place) :: rest) = (.ok key, place) :: named rest := rfl
      rw [sortOut_cons, bind_ok, front]
      by_cases known : key ∈ own.names
      · have kept : unknown own ((key, place) :: rest) = unknown own rest :=
          List.filter_cons_of_neg (by simpa using known)
        rw [kept, Fields.takes_known source own slots after key place _ ownNamed known]
        constructor
        · rintro ⟨met, fills, follows⟩
          cases met with
          | none =>
              have missed := put_known source own key place slots none fills
              rw [List.contains_iff_mem.mpr known] at missed
              cases missed
          | some filled =>
              obtain ⟨takes, aside⟩ := (ih filled held).mp follows
              exact ⟨⟨filled, fills, takes⟩, aside⟩
        · rintro ⟨⟨filled, fills, takes⟩, aside⟩
          exact ⟨some filled, fills, (ih filled held).mpr ⟨takes, aside⟩⟩
      · have kept : unknown own ((key, place) :: rest) = (key, place) :: unknown own rest :=
          List.filter_cons_of_pos (by simpa using known)
        rw [kept, Fields.takes_unknown source own slots after key place _ known,
          Fields.put_unknown source own slots key place known]
        simp only [List.forall₂_cons_left_iff]
        constructor
        · rintro ⟨_, same, follows⟩
          cases same
          obtain ⟨tree, read, follows⟩ := (bind_ok _ _ _).mp follows
          obtain ⟨takes, more, rfl, aside⟩ := (ih slots _).mp follows
          exact ⟨takes, (key, tree) :: more, by rw [List.append_assoc, List.singleton_append],
            _, _, ⟨rfl, read⟩, aside, rfl⟩
        · rintro ⟨takes, _, rfl, ⟨name, tree⟩, more, ⟨same, read⟩, aside, rfl⟩
          cases same
          refine ⟨none, rfl, (bind_ok _ _ _).mpr ⟨tree, read, (ih slots _).mpr
            ⟨takes, more, ?_, aside⟩⟩⟩
          rw [List.append_assoc, List.singleton_append]

/-- What a flattened record is read as from an object: its own fields from the members, the inner
ones from what is set aside. -/
theorem flattened_object (source : Source Place) {own inner : List Type} (name : String)
    (ownFields : Fields own) (innerFields : Fields inner) (build : Row own → Row inner → α)
    (parts : α → Row own × Row inner) (ownNamed : ownFields.names.Nodup)
    (innerNamed : innerFields.names.Nodup) (place : Place) (members : List (String × Place))
    (object : source.look place = .object (.ok (named members)) none) (value : α) :
    (Codec.flattened name ownFields innerFields build parts).decode source place = .ok value ↔
      ∃ aside, List.Forall₂ (SetAside source) (unknown ownFields members) aside ∧
        ∃ row, ownFields.Given source (named members) row ∧
          ∃ innerRow, innerFields.Given Source.buffered (named aside) innerRow ∧
            build row innerRow = value := by
  have unfolded : (Codec.flattened name ownFields innerFields build parts).decode source place =
      sortOut source ownFields (ownFields.blank, []) members >>= fun met =>
        ownFields.close met.1 >>= fun row =>
          meetMembers (innerFields.put Source.buffered)
            (fun slots _ place => do
              Source.buffered.skip place
              return slots) innerFields.blank (named met.2) >>= fun slots =>
            innerFields.close slots >>= fun innerRow => .ok (build row innerRow) := by
    rw [Codec.decode, object]
    rfl
  rw [unfolded, bind_ok]
  constructor
  · rintro ⟨⟨after, aside⟩, sorted, follows⟩
    obtain ⟨takes, _, rfl, each⟩ := (sortOut_ok source ownFields ownNamed ..).mp sorted
    obtain ⟨row, closes, follows⟩ := (bind_ok _ _ _).mp follows
    obtain ⟨slots, meets, follows⟩ := (bind_ok _ _ _).mp follows
    obtain ⟨innerRow, closesInner, same⟩ := (bind_ok _ _ _).mp follows
    obtain ⟨_, takesInner⟩ :=
      (Fields.meetMembers_ok Source.buffered innerFields innerNamed _ _ slots).mp meets
    exact ⟨_, each, row, (Fields.close_given ..).mp ⟨after, takes, closes⟩, innerRow,
      (Fields.close_given ..).mp ⟨slots, takesInner, closesInner⟩, Except.ok.inj same⟩
  · rintro ⟨aside, each, row, given, innerRow, givenInner, rfl⟩
    obtain ⟨after, takes, closes⟩ := (Fields.close_given ..).mpr given
    obtain ⟨slots, takesInner, closesInner⟩ := (Fields.close_given ..).mpr givenInner
    have passable : ∀ member ∈ named aside, innerFields.Passable Source.buffered member := by
      intro member present
      obtain ⟨⟨key, tree⟩, _, rfl⟩ := List.mem_map.mp present
      exact ⟨key, rfl, Or.inr rfl⟩
    refine ⟨(after, aside), (sortOut_ok source ownFields ownNamed ..).mpr
      ⟨takes, aside, rfl, each⟩, (bind_ok _ _ _).mpr ⟨row, closes, (bind_ok _ _ _).mpr
        ⟨slots, ?_, (bind_ok _ _ _).mpr ⟨innerRow, closesInner, rfl⟩⟩⟩⟩
    exact (Fields.meetMembers_ok Source.buffered innerFields innerNamed _ _ slots).mpr
      ⟨passable, takesInner⟩

end Entitlement.Record
