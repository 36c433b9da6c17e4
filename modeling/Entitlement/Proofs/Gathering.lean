import Entitlement.Proofs.Canonical
import Entitlement.Proofs.Results
import Entitlement.Record.Codec

/-!
Fields of a record, read from the members of an object. It is as if the members were first tried one
after the other, each with the field of its name, and the fields then gathered their values by name.
So what is read depends on the members by name alone; their order only decides which of several
faults is reported.
-/

namespace Entitlement.Record

open Json

namespace Fields

/-- Fields one after the other, whatever their codecs are made of. -/
@[induction_eliminator]
theorem inOrder {motive : (types : List Type) → Fields types → Prop} (nil : motive [] .nil)
    (field : ∀ {α : Type} {types : List Type} (name : String) (codec : Codec α)
      (absence : Absence α) (rest : Fields types), motive types rest →
      motive (α :: types) (.field name codec absence rest)) :
    {types : List Type} → (fields : Fields types) → motive types fields
  | _, .nil => nil
  | _, .field name codec absence rest => field name codec absence rest (inOrder nil field rest)

variable {α : Type} {types : List Type}

-- Trying

/-- Tries a member with the field of its name. A member without a field is left alone. -/
def attempt (source : Source Tree) : {types : List Type} → Fields types → String → Tree →
    Except Fault Unit
  | _, .nil, _, _ => .ok ()
  | _, .field name codec _ rest, key, tree =>
      if key = name then (codec.decode source tree).map fun _ => ()
      else rest.attempt source key tree

def fill (source : Source Tree) : {types : List Type} → Fields types → String → Tree →
    Slots types → Slots types
  | _, .nil, _, _, slots => slots
  | _, .field name codec _ rest, key, tree, (slot, slots) =>
      if key = name then ((codec.decode source tree).toOption, slots)
      else (slot, rest.fill source key tree slots)

def Vacant (key : String) : {types : List Type} → Fields types → Slots types → Prop
  | _, .nil, _ => True
  | _, .field name _ _ rest, (slot, slots) =>
      if key = name then slot = none else rest.Vacant key slots

section First

variable {source : Source Tree} {name key : String} {codec : Codec α} {absence : Absence α}
  {rest : Fields types} {tree : Tree} {slot : Option α} {slots : Slots types}

theorem attempt_first : (field name codec absence rest).attempt source name tree =
    (codec.decode source tree).map fun _ => () :=
  if_pos rfl

theorem attempt_later (different : key ≠ name) :
    (field name codec absence rest).attempt source key tree = rest.attempt source key tree :=
  if_neg different

theorem fill_first : (field name codec absence rest).fill source name tree (slot, slots) =
    ((codec.decode source tree).toOption, slots) :=
  if_pos rfl

theorem fill_later (different : key ≠ name) :
    (field name codec absence rest).fill source key tree (slot, slots) =
      (slot, rest.fill source key tree slots) :=
  if_neg different

theorem vacant_first : (field name codec absence rest).Vacant name (slot, slots) ↔ slot = none :=
  iff_of_eq (if_pos rfl)

theorem vacant_later (different : key ≠ name) :
    (field name codec absence rest).Vacant key (slot, slots) ↔ rest.Vacant key slots :=
  iff_of_eq (if_neg different)

theorem put_first {Place : Type} {source : Source Place} {place : Place} :
    (field name codec absence rest).put source (slot, slots) name place =
      fillSlot name slot slots fun _ => codec.decode source place :=
  if_pos rfl

theorem put_later {Place : Type} {source : Source Place} {place : Place}
    (different : key ≠ name) :
    (field name codec absence rest).put source (slot, slots) key place =
      (rest.put source slots key place).map (Option.map fun slots => (slot, slots)) := by
  refine (if_neg different).trans ?_
  cases rest.put source slots key place <;> rfl

end First

theorem attempt_unknown (source : Source Tree) (fields : Fields types) (key : String)
    (tree : Tree) (unknown : key ∉ fields.names) : fields.attempt source key tree = .ok () := by
  induction fields with
  | nil => rfl
  | field name codec absence rest ih =>
      rw [names, List.mem_cons, not_or] at unknown
      rw [attempt_later unknown.1, ih unknown.2]

theorem fill_unknown (source : Source Tree) (fields : Fields types) (key : String) (tree : Tree)
    (slots : Slots types) (unknown : key ∉ fields.names) :
    fields.fill source key tree slots = slots := by
  induction fields with
  | nil => rfl
  | field name codec absence rest ih =>
      obtain ⟨slot, slots⟩ := slots
      rw [names, List.mem_cons, not_or] at unknown
      rw [fill_later unknown.1, ih slots unknown.2]

theorem blank_vacant (key : String) (fields : Fields types) : fields.Vacant key fields.blank := by
  induction fields with
  | nil => trivial
  | field name codec absence rest ih =>
      by_cases hit : key = name
      · subst hit
        exact vacant_first.mpr rfl
      · exact (vacant_later hit).mpr ih

theorem fill_vacant (source : Source Tree) (fields : Fields types) (key other : String)
    (tree : Tree) (slots : Slots types) (different : other ≠ key)
    (vacant : fields.Vacant other slots) :
    fields.Vacant other (fields.fill source key tree slots) := by
  induction fields with
  | nil => trivial
  | field name codec absence rest ih =>
      obtain ⟨slot, slots⟩ := slots
      by_cases hit : key = name
      · subst hit
        rw [fill_first, vacant_later different]
        exact (vacant_later different).mp vacant
      · rw [fill_later hit]
        by_cases wanted : other = name
        · subst wanted
          exact vacant_first.mpr (vacant_first.mp vacant)
        · rw [vacant_later wanted] at vacant ⊢
          exact ih slots vacant

-- A field that is met for the first time fails or succeeds as the try of its member does.
theorem put_vacant {σ : Type} (source : Source Tree) (fields : Fields types) (key : String)
    (tree : Tree) (slots : Slots types) (vacant : fields.Vacant key slots)
    (next : Slots types → Except Fault σ) :
    (fields.put source slots key tree >>= fun met => next (met.getD slots)) =
      (fields.attempt source key tree >>= fun _ => next (fields.fill source key tree slots)) := by
  induction fields with
  | nil => rfl
  | field name codec absence rest ih =>
      obtain ⟨slot, slots⟩ := slots
      by_cases hit : key = name
      · subst hit
        have empty := vacant_first.mp vacant
        subst slot
        rw [put_first, attempt_first, fill_first, fillSlot]
        cases codec.decode source tree <;> rfl
      · rw [put_later hit, attempt_later hit,
          fill_later hit,
          ← ih slots ((vacant_later hit).mp vacant) fun slots => next (slot, slots)]
        cases rest.put source slots key tree with
        | error fault => rfl
        | ok met => cases met <;> rfl

def attempts (source : Source Tree) (fields : Fields types) :
    List (String × Tree) → Except Fault Unit
  | [] => .ok ()
  | (key, tree) :: rest => fields.attempt source key tree >>= fun _ => fields.attempts source rest

theorem attempts_ok (source : Source Tree) (fields : Fields types)
    (members : List (String × Tree)) :
    fields.attempts source members = .ok () ↔
      ∀ member ∈ members, fields.attempt source member.1 member.2 = .ok () := by
  induction members with
  | nil => simp [attempts]
  | cons member rest ih =>
      rw [attempts, bind_ok, List.forall_mem_cons, ← ih]
      exact ⟨fun ⟨_, first, others⟩ => ⟨first, others⟩, fun ⟨first, others⟩ => ⟨(), first, others⟩⟩

theorem attempts_append (source : Source Tree) (fields : Fields types)
    (before after : List (String × Tree)) :
    fields.attempts source (before ++ after) =
      fields.attempts source before >>= fun _ => fields.attempts source after := by
  induction before with
  | nil => rfl
  | cons member rest ih => rw [List.cons_append, attempts, attempts, ih, bind_assoc]

theorem attempts_filter (source : Source Tree) (fields : Fields types) (kept : String → Bool)
    (members : List (String × Tree))
    (dropped : ∀ member ∈ members, kept member.1 = false → member.1 ∉ fields.names) :
    fields.attempts source (members.filter fun member => kept member.1) =
      fields.attempts source members := by
  induction members with
  | nil => rfl
  | cons member rest ih =>
      have others := ih fun other present => dropped other (List.mem_cons_of_mem _ present)
      cases keep : kept member.1 with
      | true => simp only [List.filter_cons, keep, if_true, attempts, others]
      | false =>
          have unknown := dropped member List.mem_cons_self keep
          simp only [List.filter_cons, keep, Bool.false_eq_true, if_false, attempts, others,
            attempt_unknown source fields _ _ unknown]
          rfl

-- Meeting

def meet (source : Source Tree) (fields : Fields types) :
    Slots types → List (String × Tree) → Except Fault (Slots types)
  | slots, [] => .ok slots
  | slots, (key, tree) :: rest =>
      fields.put source slots key tree >>= fun met => fields.meet source (met.getD slots) rest

def read (source : Source Tree) (fields : Fields types) (members : List (String × Tree)) :
    Except Fault (Row types) :=
  fields.meet source fields.blank members >>= fields.close

def fillAll (source : Source Tree) (fields : Fields types) :
    Slots types → List (String × Tree) → Slots types
  | slots, [] => slots
  | slots, (key, tree) :: rest => fields.fillAll source (fields.fill source key tree slots) rest

theorem meet_eq (source : Source Tree) (fields : Fields types) (members : List (String × Tree))
    (slots : Slots types) (distinct : (members.map (·.1)).Nodup)
    (vacant : ∀ member ∈ members, fields.Vacant member.1 slots) :
    fields.meet source slots members =
      fields.attempts source members >>= fun _ => .ok (fields.fillAll source slots members) := by
  induction members generalizing slots with
  | nil => rfl
  | cons member rest ih =>
      rw [List.map_cons, List.nodup_cons] at distinct
      have unmet : ∀ other ∈ rest,
          fields.Vacant other.1 (fields.fill source member.1 member.2 slots) := by
        intro other present
        refine fill_vacant source fields member.1 other.1 member.2 slots (fun same => ?_)
          (vacant other (List.mem_cons_of_mem _ present))
        exact distinct.1 (List.mem_map.mpr ⟨other, present, same⟩)
      rw [meet, put_vacant source fields member.1 member.2 slots (vacant member List.mem_cons_self)
        fun slots => fields.meet source slots rest, ih _ distinct.2 unmet, attempts, bind_assoc]
      rfl

-- Gathering

def gatherField (source : Source Tree) (name : String) (codec : Codec α) (absence : Absence α) :
    Option Tree → Except Fault α
  | some tree => codec.decode source tree
  | none => absence.inObject.elim (.error (.missingField name)) .ok

def gather (source : Source Tree) (members : List (String × Tree)) :
    {types : List Type} → Fields types → Except Fault (Row types)
  | _, .nil => .ok ()
  | _, .field name codec absence rest => do
      let value ← gatherField source name codec absence (memberOf name members)
      return (value, ← rest.gather source members)

theorem gather_congr (source : Source Tree) (fields : Fields types)
    (left right : List (String × Tree))
    (agree : ∀ name ∈ fields.names, memberOf name left = memberOf name right) :
    fields.gather source left = fields.gather source right := by
  induction fields with
  | nil => rfl
  | field name codec absence rest ih =>
      rw [gather, gather, agree name List.mem_cons_self,
        ih fun other present => agree other (List.mem_cons_of_mem _ present)]

theorem fillAll_later (source : Source Tree) (name : String) (codec : Codec α)
    (absence : Absence α) (rest : Fields types) (slot : Option α) (slots : Slots types)
    (members : List (String × Tree)) (distinct : (members.map (·.1)).Nodup)
    (fresh : name ∉ rest.names) :
    (field name codec absence rest).fillAll source (slot, slots) members =
      ((memberOf name members).elim slot fun tree => (codec.decode source tree).toOption,
        rest.fillAll source slots members) := by
  induction members generalizing slot slots with
  | nil => rfl
  | cons member others ih =>
      obtain ⟨key, tree⟩ := member
      rw [List.map_cons, List.nodup_cons] at distinct
      change (field name codec absence rest).fillAll source
        ((field name codec absence rest).fill source key tree (slot, slots)) others = _
      by_cases hit : key = name
      · subst hit
        rw [fill_first, ih _ _ distinct.2, member_fresh key others distinct.1, fillAll,
          fill_unknown source rest key tree slots fresh, memberOf, if_pos rfl]
        rfl
      · rw [fill_later hit, ih _ _ distinct.2, fillAll, memberOf,
          if_neg (Ne.symm hit)]

theorem close_fillAll (source : Source Tree) (fields : Fields types)
    (members : List (String × Tree)) (distinct : (members.map (·.1)).Nodup)
    (named : fields.names.Nodup)
    (readable : ∀ member ∈ members, fields.attempt source member.1 member.2 = .ok ()) :
    fields.close (fields.fillAll source fields.blank members) = fields.gather source members := by
  induction fields with
  | nil => rfl
  | field name codec absence rest ih =>
      rw [names, List.nodup_cons] at named
      have others : ∀ member ∈ members, rest.attempt source member.1 member.2 = .ok () := by
        intro member present
        by_cases hit : member.1 = name
        · exact attempt_unknown source rest _ _ (hit ▸ named.1)
        · rw [← attempt_later hit]
          exact readable member present
      rw [blank, fillAll_later source name codec absence rest none rest.blank members distinct
        named.1, close, gather, ih named.2 others]
      cases held : memberOf name members with
      | none =>
          rw [gatherField, Option.elim_none, Option.none_or]
          cases absence.inObject <;> rfl
      | some tree =>
          have tried := readable (name, tree) (member_mem name tree members held)
          rw [attempt_first] at tried
          rw [gatherField, Option.elim_some]
          cases decoded : codec.decode source tree with
          | error fault =>
              rw [decoded] at tried
              cases tried
          | ok value => rfl

/-- A record is read by trying its members and then gathering its fields. -/
theorem read_eq (source : Source Tree) (fields : Fields types) (members : List (String × Tree))
    (distinct : (members.map (·.1)).Nodup) (named : fields.names.Nodup) :
    fields.read source members =
      fields.attempts source members >>= fun _ => fields.gather source members := by
  rw [read, meet_eq source fields members fields.blank distinct
    fun member _ => blank_vacant member.1 fields]
  cases tried : fields.attempts source members with
  | error fault => rfl
  | ok _ =>
      have readable := (attempts_ok source fields members).mp tried
      exact close_fillAll source fields members distinct named readable

theorem gather_field (source : Source Tree) (name : String) (codec : Codec α)
    (absence : Absence α) (rest : Fields types) (members : List (String × Tree)) (value : α)
    (values : Row types) :
    (field name codec absence rest).gather source members = .ok (value, values) ↔
      gatherField source name codec absence (memberOf name members) = .ok value ∧
        rest.gather source members = .ok values := by
  rw [gather]
  cases gatherField source name codec absence (memberOf name members) with
  | error fault => simp [bind, Except.bind]
  | ok first =>
      cases rest.gather source members with
      | error fault => simp [bind, Except.bind]
      | ok others =>
          constructor
          · intro same
            cases same
            exact ⟨rfl, rfl⟩
          · rintro ⟨same, alsoSame⟩
            cases same
            cases alsoSame
            rfl

theorem attempt_of_gather (source : Source Tree) (fields : Fields types)
    (members : List (String × Tree)) (distinct : (members.map (·.1)).Nodup) (row : Row types)
    (gathered : fields.gather source members = .ok row) (member : String × Tree)
    (present : member ∈ members) : fields.attempt source member.1 member.2 = .ok () := by
  induction fields with
  | nil => rfl
  | field name codec absence rest ih =>
      obtain ⟨value, values⟩ := row
      obtain ⟨first, others⟩ := (gather_field ..).mp gathered
      by_cases hit : member.1 = name
      · subst hit
        rw [member_of_mem member members distinct present, gatherField] at first
        rw [attempt_first, first]
        rfl
      · rw [attempt_later hit]
        exact ih values others

theorem read_ok (source : Source Tree) (fields : Fields types) (members : List (String × Tree))
    (distinct : (members.map (·.1)).Nodup) (named : fields.names.Nodup) (row : Row types) :
    fields.read source members = .ok row ↔ fields.gather source members = .ok row := by
  rw [read_eq source fields members distinct named, bind_ok]
  constructor
  · rintro ⟨_, _, gathered⟩
    exact gathered
  · intro gathered
    exact ⟨(), (attempts_ok source fields members).mpr
      (attempt_of_gather source fields members distinct row gathered), gathered⟩

/-- What is read does not depend on members that have no field. -/
theorem read_filter (source : Source Tree) (fields : Fields types) (kept : String → Bool)
    (members : List (String × Tree)) (distinct : (members.map (·.1)).Nodup)
    (named : fields.names.Nodup) (known : ∀ name ∈ fields.names, kept name = true) :
    fields.read source (members.filter fun member => kept member.1) =
      fields.read source members := by
  have stillDistinct : ((members.filter fun member => kept member.1).map (·.1)).Nodup :=
    distinct.sublist (List.filter_sublist.map _)
  have dropped : ∀ member ∈ members, kept member.1 = false → member.1 ∉ fields.names := by
    intro member _ refused present
    rw [known member.1 present] at refused
    cases refused
  have lookups : fields.gather source (members.filter fun member => kept member.1) =
      fields.gather source members := by
    refine gather_congr source fields _ _ fun name present => ?_
    rw [member_filter, known name present, if_pos rfl]
  rw [read_eq source fields _ stillDistinct named, read_eq source fields members distinct named,
    attempts_filter source fields kept members dropped, lookups]

end Fields

end Entitlement.Record
