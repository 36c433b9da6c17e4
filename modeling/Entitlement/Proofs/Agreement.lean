import Entitlement.Proofs.Lawful
import Entitlement.Proofs.Places
import Entitlement.Proofs.Reordering

/-!
Two sources that show the same values. Each level of a value is the same in both, but for the order
of the members of an object, and what lies deeper is the same again. No codec tells such sources
apart: the fields of a record find their members by name, and what a flattened record sets aside is
alike as well.
-/

namespace Entitlement.Record

open Json

variable {Place Other : Type} {α : Type} {types : List Type}

-- What is alike

/-- One level of two values that differ in the order of members at most. -/
inductive View.Alike (same : Place → Other → Prop) : View Place → View Other → Prop
  | null : Alike same .null .null
  | bool (value : Bool) : Alike same (.bool value) (.bool value)
  | number (value : Number) : Alike same (.number (.ok value)) (.number (.ok value))
  | text (value : String) : Alike same (.text (.ok value)) (.text (.ok value))
  | list (places : List Place) (others : List Other) (surplus alsoSurplus : Nat → Option Fault)
      (each : List.Forall₂ same places others)
      (exact : ∀ taken, surplus taken = none ↔ places.length ≤ taken)
      (alsoExact : ∀ taken, alsoSurplus taken = none ↔ others.length ≤ taken) :
      Alike same (.list (.ok places) none surplus) (.list (.ok others) none alsoSurplus)
  | object (members : List (String × Place)) (others : List (String × Other))
      (keys : (members.map (·.1)).Nodup) (alsoKeys : (others.map (·.1)).Nodup)
      (each : ∀ key, Option.Rel same (memberOf key members) (memberOf key others)) :
      Alike same (.object (.ok (named members)) none) (.object (.ok (named others)) none)

/-- No alternative has this tag: there is none, or more than its payload. -/
def Tag.Refused (tag : Except Fault (Tag Place)) : Prop :=
  ∀ held, tag = .ok held → held.payload ≠ none ∧ held.surplus ≠ none

inductive Tag.Alike (same : Place → Other → Prop) :
    Except Fault (Tag Place) → Except Fault (Tag Other) → Prop
  | text (value : String) : Alike same (.ok ⟨.ok value, none, none⟩) (.ok ⟨.ok value, none, none⟩)
  | single (key : String) (place : Place) (other : Other) (payload : same place other) :
      Alike same (.ok ⟨.ok key, some place, none⟩) (.ok ⟨.ok key, some other, none⟩)
  | refused (tag : Except Fault (Tag Place)) (other : Except Fault (Tag Other))
      (none : Tag.Refused tag) (alsoNone : Tag.Refused other) : Alike same tag other

/-- Two sources and which of their places show the same value. Nothing in such a value is broken. -/
structure Source.Alike (near : Source Place) (far : Source Other)
    (same : Place → Other → Prop) : Prop where
  look : ∀ place other, same place other → View.Alike same (near.look place) (far.look other)
  isNull : ∀ place other, same place other →
    ∃ null, near.isNull place = .ok null ∧ far.isNull other = .ok null
  tag : ∀ place other, same place other → Tag.Alike same (near.tag place) (far.tag other)
  emptyPayload : near.emptyPayload = far.emptyPayload
  skip : ∀ place other, same place other → near.skip place = .ok () ∧ far.skip other = .ok ()
  whole : ∀ place other, same place other →
    ∃ tree another, near.whole place = .ok tree ∧ far.whole other = .ok another ∧
      tree.Alike another

theorem rel_flip {same : Place → Other → Prop} {one : Option Place} {another : Option Other}
    (related : Option.Rel same one another) :
    Option.Rel (fun other place => same place other) another one := by
  cases related with
  | some alike => exact .some alike
  | none => exact .none

theorem View.Alike.symm {same : Place → Other → Prop} {view : View Place} {other : View Other}
    (alike : Alike same view other) : Alike (fun one another => same another one) other view := by
  cases alike with
  | null => exact .null
  | bool value => exact .bool value
  | number value => exact .number value
  | text value => exact .text value
  | list places others surplus alsoSurplus each exact alsoExact =>
      exact .list others places alsoSurplus surplus each.flip alsoExact exact
  | object members others keys alsoKeys each =>
      exact .object others members alsoKeys keys fun key => rel_flip (each key)

theorem Tag.Alike.symm {same : Place → Other → Prop} {tag : Except Fault (Tag Place)}
    {other : Except Fault (Tag Other)} (alike : Alike same tag other) :
    Alike (fun one another => same another one) other tag := by
  cases alike with
  | text value => exact .text value
  | single key place other payload => exact .single key other place payload
  | refused tag other none alsoNone => exact .refused other tag alsoNone none

theorem Source.Alike.symm {near : Source Place} {far : Source Other} {same : Place → Other → Prop}
    (alike : near.Alike far same) : far.Alike near fun one another => same another one where
  look place other shows := (alike.look other place shows).symm
  isNull place other shows := by
    obtain ⟨null, read, alsoRead⟩ := alike.isNull other place shows
    exact ⟨null, alsoRead, read⟩
  tag place other shows := (alike.tag other place shows).symm
  emptyPayload := alike.emptyPayload.symm
  skip place other shows := (alike.skip other place shows).symm
  whole place other shows := by
    obtain ⟨tree, another, read, alsoRead, same⟩ := alike.whole other place shows
    exact ⟨another, tree, alsoRead, read, same.symm⟩

-- Trees

/-- Each member of the second object shows what some member of the first shows. -/
theorem shown_member {same : Place → Other → Prop} (members : List (String × Place))
    (others : List (String × Other)) (alsoKeys : (others.map (·.1)).Nodup)
    (each : ∀ key, Option.Rel same (memberOf key members) (memberOf key others))
    (member : String × Other) (present : member ∈ others) :
    ∃ place, memberOf member.1 members = some place ∧ same place member.2 := by
  have related := each member.1
  rw [member_of_mem member others alsoKeys present] at related
  generalize memberOf member.1 members = one at related
  cases related with
  | some shows => exact ⟨_, rfl, shows⟩

theorem single_alike {same : Place → Other → Prop} (key : String) (place : Place)
    (others : List (String × Other)) (keys : (others.map (·.1)).Nodup)
    (each : ∀ name, Option.Rel same (memberOf name [(key, place)]) (memberOf name others)) :
    ∃ other, others = [(key, other)] ∧ same place other := by
  have only : ∀ member ∈ others, member.1 = key := by
    intro member present
    obtain ⟨_, held, _⟩ := shown_member _ others keys each member present
    by_contra other
    rw [memberOf, if_neg other, memberOf] at held
    cases held
  have first := each key
  rw [memberOf, if_pos rfl] at first
  cases others with
  | nil => cases first
  | cons head rest =>
      obtain ⟨name, other⟩ := head
      obtain rfl := only _ List.mem_cons_self
      cases rest with
      | nil =>
          rw [memberOf, if_pos rfl] at first
          cases first with
          | some alike => exact ⟨other, rfl, alike⟩
      | cons second rest =>
          have again := only second (List.mem_cons_of_mem _ List.mem_cons_self)
          simp [again] at keys

theorem treeView_alike (surplus alsoSurplus : Nat → Nat → Option Fault)
    (exact : ∀ length taken, surplus length taken = none ↔ length ≤ taken)
    (alsoExact : ∀ length taken, alsoSurplus length taken = none ↔ length ≤ taken)
    (tree other : Tree) (alike : tree.Alike other) :
    View.Alike Tree.Alike (Source.treeView surplus tree) (Source.treeView alsoSurplus other) := by
  cases alike.level with
  | null => exact .null
  | bool value => exact .bool value
  | number value => exact .number value
  | text value => exact .text value
  | list items others each =>
      exact .list items others _ _ each (exact items.length) (alsoExact others.length)
  | object members others keys alsoKeys each => exact .object members others keys alsoKeys each

theorem Tag.refused_error (fault : Fault) :
    Tag.Refused (.error fault : Except Fault (Tag Place)) :=
  fun _ same => nomatch same

theorem treeTag_many (members : List (String × Tree))
    (many : ∀ key payload, members ≠ [(key, payload)]) :
    Source.treeTag (.object members) = .error .notSingleKey := by
  match members, many with
  | [], _ => rfl
  | [(key, payload)], many => exact absurd rfl (many key payload)
  | _ :: _ :: _, _ => rfl

theorem many_alike {same : Place → Other → Prop} (members : List (String × Place))
    (others : List (String × Other)) (keys : (members.map (·.1)).Nodup)
    (each : ∀ key, Option.Rel same (memberOf key members) (memberOf key others))
    (many : ∀ key place, members ≠ [(key, place)]) (key : String) (other : Other) :
    others ≠ [(key, other)] := by
  rintro rfl
  obtain ⟨place, same, _⟩ := single_alike key other members keys fun name => rel_flip (each name)
  exact many key place same

theorem treeTag_alike (tree other : Tree) (alike : tree.Alike other) :
    Tag.Alike Tree.Alike (Source.treeTag tree) (Source.treeTag other) := by
  cases alike.level with
  | text value => exact .text value
  | object members others keys alsoKeys each =>
      by_cases single : ∃ key payload, members = [(key, payload)]
      · obtain ⟨key, payload, rfl⟩ := single
        obtain ⟨other, rfl, same⟩ := single_alike key payload others alsoKeys each
        exact .single key payload other same
      · have many : ∀ key payload, members ≠ [(key, payload)] :=
          fun key payload same => single ⟨key, payload, same⟩
        rw [treeTag_many members many,
          treeTag_many others (many_alike members others keys each many)]
        exact .refused _ _ (Tag.refused_error _) (Tag.refused_error _)
  | _ => exact .refused _ _ (Tag.refused_error _) (Tag.refused_error _)

theorem Source.ReadsTrees.alike {near far : Source Tree} (here : near.ReadsTrees)
    (there : far.ReadsTrees) (payload : near.emptyPayload = far.emptyPayload) :
    near.Alike far Tree.Alike where
  look place other shows := by
    cases here with
    | intro surplus emptyPayload exact =>
        cases there with
        | intro alsoSurplus alsoEmpty alsoExact =>
            exact treeView_alike surplus alsoSurplus exact alsoExact place other shows
  isNull place other shows := by
    cases here
    cases there
    cases shows.level <;> exact ⟨_, rfl, rfl⟩
  tag place other shows := by
    cases here
    cases there
    exact treeTag_alike place other shows
  emptyPayload := payload
  skip place other _ := ⟨here.skip place, there.skip other⟩
  whole place other shows := ⟨place, other, here.whole place, there.whole other, shows⟩

-- Values

section Values

variable {near : Source Place} {far : Source Other} {same : Place → Other → Prop}
  (alike : near.Alike far same) (place : Place) (other : Other) (shows : same place other)

include alike shows

theorem text_alike (value : String) (decoded : Codec.text.decode near place = .ok value) :
    Codec.text.decode far other = .ok value := by
  have seen := alike.look place other shows
  rw [Codec.decode] at decoded ⊢
  generalize near.look place = view at seen decoded
  generalize far.look other = another at seen ⊢
  cases seen with
  | text held => exact decoded
  | _ => cases decoded

theorem bool_alike (value : Bool) (decoded : Codec.bool.decode near place = .ok value) :
    Codec.bool.decode far other = .ok value := by
  have seen := alike.look place other shows
  rw [Codec.decode] at decoded ⊢
  generalize near.look place = view at seen decoded
  generalize far.look other = another at seen ⊢
  cases seen with
  | bool held => exact decoded
  | _ => cases decoded

theorem number_alike (wanted : Wanted) (convert : Number → Except Fault α) (value : α)
    (decoded : readNumber near wanted convert place = .ok value) :
    readNumber far wanted convert other = .ok value := by
  have seen := alike.look place other shows
  rw [readNumber] at decoded ⊢
  generalize near.look place = view at seen decoded
  generalize far.look other = another at seen ⊢
  cases seen with
  | number held => exact decoded
  | _ => cases decoded

theorem unit_alike (accepted : near.unit place = .ok ()) : far.unit other = .ok () := by
  have seen := alike.look place other shows
  have empty := alike.emptyPayload
  rw [Source.unit] at accepted ⊢
  generalize near.look place = view at seen accepted
  generalize far.look other = another at seen ⊢
  cases seen with
  | null => rfl
  | object members others keys alsoKeys each =>
      cases members with
      | cons member rest => cases accepted
      | nil =>
          cases others with
          | nil =>
              rw [← empty]
              exact accepted
          | cons first rest =>
              have held := each first.1
              rw [memberOf, memberOf, if_pos rfl] at held
              cases held
  | _ => cases accepted

theorem choice_alike (known : List α) (name : α → String) (value : α)
    (decoded : (Codec.choice known name).decode near place = .ok value) :
    (Codec.choice known name).decode far other = .ok value := by
  have tags := alike.tag place other shows
  rw [choice_ok] at decoded ⊢
  generalize near.tag place = tag at tags decoded
  generalize far.tag other = another at tags ⊢
  obtain ⟨tag, text, rfl, nameRead, found, accepted⟩ := decoded
  cases tags with
  | text held =>
      cases nameRead
      exact ⟨_, text, rfl, rfl, found, nofun⟩
  | single key payload another shows =>
      cases nameRead
      refine ⟨_, text, rfl, rfl, found, ?_⟩
      intro inside held
      cases held
      exact ⟨unit_alike alike payload another shows (accepted payload rfl).1, rfl⟩
  | refused tag another none alsoNone =>
      obtain ⟨filled, more⟩ := none _ rfl
      obtain ⟨payload, same⟩ := Option.ne_none_iff_exists'.mp filled
      exact absurd (accepted payload same).2 more

theorem boolOrText_alike (name : String) (value : Bool ⊕ String)
    (decoded : (Codec.boolOrText name).decode near place = .ok value) :
    (Codec.boolOrText name).decode far other = .ok value := by
  obtain ⟨tree, another, read, alsoRead, same⟩ := alike.whole place other shows
  rw [Codec.decode, read] at decoded
  rw [Codec.decode, alsoRead]
  cases same.level with
  | bool value => exact decoded
  | text value => exact decoded
  | _ => cases decoded

end Values

-- Agreement

theorem rel_through {related : Place → Other → Prop} {reads : Place → α → Prop}
    {alsoReads : Other → α → Prop} {place : Option Place} {other : Option Other}
    {value : Option α} (shows : Option.Rel related place other)
    (read : Option.Rel reads place value)
    (through : ∀ place other value, related place other → reads place value →
      alsoReads other value) : Option.Rel alsoReads other value := by
  cases shows with
  | none =>
      cases read with
      | none => exact .none
  | some shows =>
      cases read with
      | some read => exact .some (through _ _ _ shows read)

/-- What is set aside holds under each key the tree that the member of this key shows. -/
theorem aside_members (source : Source Place) (members : List (String × Place))
    (aside : List (String × Tree)) (wholes : List.Forall₂ (SetAside source) members aside) :
    aside.map (·.1) = members.map (·.1) ∧
      ∀ key, Option.Rel (fun place tree => source.whole place = .ok tree)
        (memberOf key members) (memberOf key aside) := by
  induction wholes with
  | nil => exact ⟨rfl, fun _ => .none⟩
  | @cons member tree members aside first _ ih =>
      obtain ⟨same, read⟩ := first
      obtain ⟨keys, each⟩ := ih
      refine ⟨by rw [List.map_cons, List.map_cons, keys, same], fun key => ?_⟩
      obtain ⟨name, place⟩ := member
      obtain ⟨alsoName, held⟩ := tree
      cases same
      rw [memberOf, memberOf]
      by_cases hit : key = name
      · rw [if_pos hit, if_pos hit]
        exact .some read
      · rw [if_neg hit, if_neg hit]
        exact each key

/-- What two sources set aside is alike. -/
theorem aside_alike {near : Source Place} {far : Source Other} {same : Place → Other → Prop}
    (alike : near.Alike far same) (own : Fields types) (members : List (String × Place))
    (others : List (String × Other)) (keys : (members.map (·.1)).Nodup)
    (alsoKeys : (others.map (·.1)).Nodup)
    (each : ∀ key, Option.Rel same (memberOf key members) (memberOf key others))
    (aside : List (String × Tree))
    (wholes : List.Forall₂ (SetAside near) (unknown own members) aside) :
    ∃ alsoAside, List.Forall₂ (SetAside far) (unknown own others) alsoAside ∧
      (aside.map (·.1)).Nodup ∧ (alsoAside.map (·.1)).Nodup ∧
        ∀ key, Option.Rel Tree.Alike (memberOf key aside) (memberOf key alsoAside) := by
  have readable : ∀ member ∈ unknown own others, ∃ aside, SetAside far member aside := by
    intro member present
    obtain ⟨place, _, shows⟩ :=
      shown_member members others alsoKeys each member (List.mem_filter.mp present).1
    obtain ⟨_, tree, _, read, _⟩ := alike.whole place member.2 shows
    exact ⟨(member.1, tree), rfl, read⟩
  obtain ⟨alsoAside, alsoWholes⟩ := forall₂_choose _ readable
  obtain ⟨asideKeys, asideEach⟩ := aside_members near _ aside wholes
  obtain ⟨alsoAsideKeys, alsoAsideEach⟩ := aside_members far _ alsoAside alsoWholes
  refine ⟨alsoAside, alsoWholes, ?first, ?second, fun key => ?member⟩
  case first =>
    rw [asideKeys]
    exact keys.sublist (List.filter_sublist.map _)
  case second =>
    rw [alsoAsideKeys]
    exact alsoKeys.sublist (List.filter_sublist.map _)
  case member =>
    have held := asideEach key
    have alsoHeld := alsoAsideEach key
    rw [unknown, member_filter key fun name => !own.names.contains name] at held alsoHeld
    by_cases kept : (!own.names.contains key) = true
    · rw [if_pos kept] at held alsoHeld
      have shown : Option.Rel (fun other tree =>
          ∃ another, far.whole other = .ok another ∧ tree.Alike another)
          (memberOf key others) (memberOf key aside) :=
        rel_through (each key) held fun place other tree shows read => by
          obtain ⟨_, another, alsoRead, whole, same⟩ := alike.whole place other shows
          cases read.symm.trans alsoRead
          exact ⟨another, whole, same⟩
      refine rel_flip (rel_through alsoHeld shown fun other another tree whole read => ?_)
      obtain ⟨_, alsoWhole, same⟩ := read
      cases whole.symm.trans alsoWhole
      exact same
    · rw [if_neg kept] at held alsoHeld
      generalize memberOf key aside = one at held ⊢
      generalize memberOf key alsoAside = another at alsoHeld ⊢
      cases held
      cases alsoHeld
      exact .none

mutual

/-- What is read from one source is read from the other. -/
theorem Codec.decode_alike : {α : Type} → {codec : Codec α} → codec.Lawful →
    {Place Other : Type} → {near : Source Place} → {far : Source Other} →
    {same : Place → Other → Prop} → near.Alike far same → (place : Place) → (other : Other) →
    same place other → (value : α) → codec.decode near place = .ok value →
      codec.decode far other = .ok value
  | _, _, .text, _, _, _, _, _, alike, place, other, shows, value, decoded =>
      text_alike alike place other shows value decoded
  | _, _, .bool, _, _, _, _, _, alike, place, other, shows, value, decoded =>
      bool_alike alike place other shows value decoded
  | _, _, .int64, _, _, _, _, _, alike, place, other, shows, value, decoded =>
      number_alike alike place other shows _ _ value decoded
  | _, _, .uint32, _, _, _, _, _, alike, place, other, shows, value, decoded =>
      number_alike alike place other shows _ _ value decoded
  | _, _, .uint64, _, _, _, _, _, alike, place, other, shows, value, decoded =>
      number_alike alike place other shows _ _ value decoded
  | _, .option codec, .option inner _, _, _, near, far, _, alike, place, other, shows, value,
      decoded => by
      obtain ⟨null, read, alsoRead⟩ := alike.isNull place other shows
      rw [Codec.decode, read] at decoded
      rw [Codec.decode, alsoRead]
      cases null with
      | true => exact decoded
      | false =>
          obtain ⟨held, decoded, same⟩ := (bind_ok (codec.decode near place) _ _).mp decoded
          exact (bind_ok (codec.decode far other) _ _).mpr
            ⟨held, Codec.decode_alike inner alike place other shows held decoded, same⟩
  | _, .list codec, .list item, _, _, near, far, _, alike, place, other, shows, values,
      decoded => by
      have seen := alike.look place other shows
      generalize view : near.look place = one at seen
      generalize alsoView : far.look other = another at seen
      cases seen with
      | list places others surplus alsoSurplus each exact alsoExact =>
          rw [decode_places near place codec places surplus view, mapM_ok] at decoded
          rw [decode_places far other codec others alsoSurplus alsoView, mapM_ok]
          exact forall₂_through each decoded fun place other value shows read =>
            Codec.decode_alike item alike place other shows value read
      | _ =>
          rw [Codec.decode, view] at decoded
          cases decoded
  | _, .dict codec, .dict entry, _, _, near, far, _, alike, place, other, shows, dict,
      decoded => by
      have seen := alike.look place other shows
      generalize view : near.look place = one at seen
      generalize alsoView : far.look other = another at seen
      cases seen with
      | object members others keys alsoKeys each =>
          rw [dict_members near codec place members keys view] at decoded
          rw [dict_members far codec other others alsoKeys alsoView]
          exact fun key => rel_through (each key) (decoded key) fun place other value shows read =>
            Codec.decode_alike entry alike place other shows value read
      | _ =>
          rw [Codec.decode, view] at decoded
          cases decoded
  | _, .choice known name, .choice _, _, _, _, _, _, alike, place, other, shows, value, decoded =>
      choice_alike alike place other shows known name value decoded
  | _, _, .boolOrText name, _, _, _, _, _, alike, place, other, shows, value, decoded =>
      boolOrText_alike alike place other shows name value decoded
  | _, .via codec build parts, .via form _ _, _, _, near, far, _, alike, place, other, shows,
      value, decoded => by
      obtain ⟨held, decoded, same⟩ := (bind_ok (codec.decode near place) _ _).mp decoded
      exact (bind_ok (codec.decode far other) _ _).mpr
        ⟨held, Codec.decode_alike form alike place other shows held decoded, same⟩
  | _, .record name fields build parts, .record lawful distinct _ _, _, _, near, far, _, alike,
      place, other, shows, value, decoded => by
      have seen := alike.look place other shows
      generalize view : near.look place = one at seen
      generalize alsoView : far.look other = another at seen
      cases seen with
      | object members others keys alsoKeys each =>
          obtain ⟨_, _, row, given, built⟩ :=
            (record_object near name fields build parts distinct place _ _ view value).mp decoded
          refine (record_object far name fields build parts distinct other _ _ alsoView value).mpr
            ⟨?_, rfl, row,
              Fields.given_alike lawful alike members others keys alsoKeys each row given, built⟩
          intro member present
          obtain ⟨⟨key, held⟩, inside, rfl⟩ := List.mem_map.mp present
          obtain ⟨_, _, shows⟩ := shown_member members others alsoKeys each (key, held) inside
          exact ⟨key, rfl, Or.inr (alike.skip _ held shows).2⟩
      | list places others surplus alsoSurplus each exact alsoExact =>
          obtain ⟨⟨_, ends⟩, row, listed, built⟩ :=
            (record_list near name fields build parts place _ _ _ view value).mp decoded
          have short := (exact fields.count).mp ends
          rw [each.length_eq] at short
          exact (record_list far name fields build parts other _ _ _ alsoView value).mpr
            ⟨⟨fun _ => rfl, (alsoExact fields.count).mpr short⟩, row,
              Fields.listed_alike lawful alike places others each row listed, built⟩
      | _ =>
          rw [Codec.decode, view] at decoded
          cases decoded
  | _, .flattened name ownFields innerFields build parts, .flattened own inner distinct _ _, _, _,
      near, far, _, alike, place, other, shows, value, decoded => by
      obtain ⟨innerDistinct, ownDistinct, _⟩ := List.nodup_append.mp distinct
      have seen := alike.look place other shows
      generalize view : near.look place = one at seen
      generalize alsoView : far.look other = another at seen
      cases seen with
      | object members others keys alsoKeys each =>
          obtain ⟨aside, wholes, row, given, innerRow, givenInner, built⟩ :=
            (flattened_object near name ownFields innerFields build parts ownDistinct innerDistinct
              place members view value).mp decoded
          obtain ⟨alsoAside, alsoWholes, asideKeys, alsoAsideKeys, asideEach⟩ :=
            aside_alike alike ownFields members others keys alsoKeys each aside wholes
          refine (flattened_object far name ownFields innerFields build parts ownDistinct
            innerDistinct other others alsoView value).mpr ⟨alsoAside, alsoWholes, row,
              Fields.given_alike own alike members others keys alsoKeys each row given, innerRow,
              ?_, built⟩
          exact Fields.given_alike inner
            (Source.buffered_reads.alike Source.buffered_reads rfl) aside alsoAside asideKeys
            alsoAsideKeys asideEach innerRow givenInner
      | _ =>
          rw [Codec.decode, view] at decoded
          cases decoded

theorem Fields.given_alike : {types : List Type} → {fields : Fields types} → fields.Lawful →
    {Place Other : Type} → {near : Source Place} → {far : Source Other} →
    {same : Place → Other → Prop} → near.Alike far same → (members : List (String × Place)) →
    (others : List (String × Other)) → (members.map (·.1)).Nodup → (others.map (·.1)).Nodup →
    (∀ key, Option.Rel same (memberOf key members) (memberOf key others)) → (row : Row types) →
    fields.Given near (named members) row → fields.Given far (named others) row
  | _, _, .nil, _, _, _, _, _, _, _, _, _, _, _, _, _ => trivial
  | _, .field name codec absence rest, .field value absent later, _, _, near, far, _, alike,
      members, others, keys, alsoKeys, each, (first, row), given => by
      obtain ⟨held, rest⟩ := (given_field near name codec absence _ members keys first row).mp given
      refine (given_field far name codec absence _ others alsoKeys first row).mpr
        ⟨?_, Fields.given_alike later alike members others keys alsoKeys each row rest⟩
      have related := each name
      generalize memberOf name members = one at related held
      generalize memberOf name others = another at related ⊢
      cases related with
      | none =>
          rcases held with ⟨_, usual⟩ | ⟨_, absurd, _⟩
          · exact Or.inl ⟨rfl, usual⟩
          · cases absurd
      | some shows =>
          rcases held with ⟨absurd, _⟩ | ⟨_, same, read⟩
          · cases absurd
          · cases same
            exact Or.inr ⟨_, rfl, Codec.decode_alike value alike _ _ shows first read⟩

theorem Fields.listed_alike : {types : List Type} → {fields : Fields types} → fields.Lawful →
    {Place Other : Type} → {near : Source Place} → {far : Source Other} →
    {same : Place → Other → Prop} → near.Alike far same → (places : List Place) →
    (others : List Other) → List.Forall₂ same places others → (row : Row types) →
    fields.Listed near places row → fields.Listed far others row
  | _, _, .nil, _, _, _, _, _, _, _, _, _, _, _ => trivial
  | _, .field name codec absence rest, .field value absent later, _, _, near, far, _, alike,
      [], [], _, (first, row), listed =>
      ⟨listed.1, Fields.listed_alike later alike [] [] .nil row listed.2⟩
  | _, .field name codec absence rest, .field value absent later, _, _, near, far, _, alike,
      place :: places, other :: others, each, (first, row), listed => by
      cases each with
      | cons shows each =>
          exact ⟨Codec.decode_alike value alike place other shows first listed.1,
            Fields.listed_alike later alike places others each row listed.2⟩

end

end Entitlement.Record
