import Entitlement.Proofs.Gathering

/-!
Reading a tree, one law for each kind of codec: what a tree must be to be read as a given value.
-/

namespace Entitlement.Record

open Json

/-- A source whose places are trees. It says what it likes of a list that is too long. -/
inductive Source.ReadsTrees : Source Tree → Prop
  | intro (surplus : Nat → Nat → Option Fault) (emptyPayload : Bool)
      (exact : ∀ length taken, surplus length taken = none ↔ length ≤ taken) :
      ReadsTrees ⟨treeView surplus, isNullTree, treeTag, emptyPayload, fun _ => .ok (), .ok⟩

theorem Source.ReadsTrees.skip {source : Source Tree} (reads : source.ReadsTrees) (tree : Tree) :
    source.skip tree = .ok () := by
  cases reads
  rfl

theorem Source.ReadsTrees.whole {source : Source Tree} (reads : source.ReadsTrees) (tree : Tree) :
    source.whole tree = .ok tree := by
  cases reads
  rfl

theorem Source.tree_reads : Source.tree.ReadsTrees :=
  .intro tooLong false fun length taken => by simp [tooLong]

theorem Source.buffered_reads : Source.buffered.ReadsTrees :=
  .intro tooLongBuffered true fun length taken => by simp [tooLongBuffered]

-- Any source

theorem stopAt_ok {next : Option Fault} : stopAt next = .ok () ↔ next = none := by
  cases next with
  | none => exact ⟨fun _ => rfl, fun _ => rfl⟩
  | some fault => exact ⟨nofun, nofun⟩

section Parts

variable {Place α β : Type} (source : Source Place) (place : Place)

theorem decode_places (codec : Codec α) (places : List Place) (surplus : Nat → Option Fault)
    (list : source.look place = .list (.ok places) none surplus) :
    codec.list.decode source place = places.mapM (codec.decode source) := by
  have unfolded : codec.list.decode source place =
      places.mapM (codec.decode source) >>= fun values => .ok values := by
    rw [Codec.decode, list]
    rfl
  rw [unfolded, bind_same]

def named (members : List (String × Place)) : List (Except Fault String × Place) :=
  members.map fun member => (.ok member.1, member.2)

theorem decode_named (codec : Codec α) (members : List (String × Place))
    (object : source.look place = .object (.ok (named members)) none) :
    codec.dict.decode source place =
      members.foldlM (fun dict member =>
        (codec.decode source member.2).map (dict.insert member.1)) Dict.empty := by
  rw [Codec.decode, object]
  refine Eq.trans (b := (named members).foldlM (fun (dict : Dict α) member =>
      member.1 >>= fun key => codec.decode source member.2 >>= fun value =>
        (.ok (dict.insert key value) : Except Fault _)) Dict.empty >>= fun dict => .ok dict)
    rfl ?_
  rw [bind_same, named, List.foldlM_map]
  simp only [← bind_return]
  rfl

end Parts

-- Objects

theorem meetMembers_cons {Place σ : Type} (put : σ → String → Place → Except Fault (Option σ))
    (other : σ → String → Place → Except Fault σ) (state : σ) (key : String) (place : Place)
    (rest : List (Except Fault String × Place)) :
    meetMembers put other state ((.ok key, place) :: rest) =
      put state key place >>= fun met => match met with
        | some state => meetMembers put other state rest
        | none => other state key place >>= fun state => meetMembers put other state rest :=
  rfl

theorem meetMembers_skip (source : Source Tree) (reads : source.ReadsTrees)
    {types : List Type} (fields : Fields types) (slots : Slots types)
    (members : List (String × Tree)) :
    meetMembers (fields.put source)
        (fun slots _ place => do
          source.skip place
          return slots) slots (members.map fun member => (.ok member.1, member.2)) =
      fields.meet source slots members := by
  induction members generalizing slots with
  | nil => rfl
  | cons member rest ih =>
      rw [List.map_cons, meetMembers_cons, Fields.meet]
      congr 1
      funext met
      cases met with
      | none =>
          rw [reads.skip]
          exact ih slots
      | some slots => exact ih slots

theorem decode_record (source : Source Tree) (reads : source.ReadsTrees) {α : Type}
    {types : List Type} (name : String) (fields : Fields types) (build : Row types → α)
    (parts : α → Row types) (members : List (String × Tree)) :
    (Codec.record name fields build parts).decode source (.object members) =
      (fields.read source members).map build := by
  have skipped := meetMembers_skip source reads fields fields.blank members
  obtain ⟨surplus, emptyPayload, exact⟩ := reads
  rw [Fields.read, ← skipped, ← bind_return, bind_assoc]
  rfl

def others {types : List Type} (own : Fields types) (members : List (String × Tree)) :
    List (String × Tree) :=
  members.filter fun member => !own.names.contains member.1

theorem others_distinct {types : List Type} (own : Fields types) (members : List (String × Tree))
    (distinct : (members.map (·.1)).Nodup) : ((others own members).map (·.1)).Nodup :=
  distinct.sublist (List.filter_sublist.map _)

theorem member_others {types : List Type} (own : Fields types) (members : List (String × Tree))
    (key : String) (unknown : key ∉ own.names) :
    memberOf key (others own members) = memberOf key members := by
  rw [others, member_filter key fun name => !own.names.contains name]
  exact if_pos (by simpa using unknown)

theorem put_known {Place : Type} (source : Source Place) {types : List Type} (own : Fields types)
    (key : String) (place : Place) (slots : Slots types) (met : Option (Slots types))
    (put : own.put source slots key place = .ok met) :
    met.isSome = own.names.contains key := by
  induction own with
  | nil =>
      cases put
      rfl
  | field name codec absence rest ih =>
      obtain ⟨slot, slots⟩ := slots
      rw [Fields.names, List.contains_cons]
      by_cases hit : key = name
      · subst hit
        rw [Fields.put_first] at put
        cases slot with
        | some value => cases put
        | none =>
            obtain ⟨value, _, same⟩ := (bind_ok _ _ _).mp put
            cases same
            rw [beq_self_eq_true, Bool.true_or]
            rfl
      · rw [Fields.put_later hit] at put
        cases inner : rest.put source slots key place with
        | error fault =>
            rw [inner] at put
            cases put
        | ok found =>
            rw [inner] at put
            cases put
            rw [beq_false_of_ne hit, Bool.false_or, ← ih slots found inner]
            exact Option.isSome_map

/-- A member of a flattened record is met by a field of its own, or else set aside. -/
def meetAside {types : List Type} (source : Source Tree) (own : Fields types)
    (state : Slots types × List (String × Tree)) (members : List (String × Tree)) :
    Except Fault (Slots types × List (String × Tree)) :=
  meetMembers
    (fun state key place => do
      return (← own.put source state.1 key place).map fun slots => (slots, state.2))
    (fun state key place => do
      return (state.1, state.2 ++ [(key, ← source.whole place)]))
    state (members.map fun member => (.ok member.1, member.2))

theorem meetAside_eq (source : Source Tree) (reads : source.ReadsTrees)
    {types : List Type} (own : Fields types) (slots : Slots types)
    (aside members : List (String × Tree)) :
    meetAside source own (slots, aside) members =
      (own.meet source slots members).map fun slots => (slots, aside ++ others own members) := by
  induction members generalizing slots aside with
  | nil => simp [meetAside, meetMembers, Fields.meet, others, Except.map]
  | cons member rest ih =>
      rw [meetAside, List.map_cons, meetMembers_cons, Fields.meet, others, List.filter_cons]
      cases put : own.put source slots member.1 member.2 with
      | error fault => rfl
      | ok met =>
          rw [← put_known source own member.1 member.2 slots met put]
          cases met with
          | none =>
              rw [reads.whole]
              refine (ih slots (aside ++ [member])).trans ?_
              rw [List.append_assoc]
              rfl
          | some slots => exact ih slots aside

theorem decode_flattened (source : Source Tree) (reads : source.ReadsTrees) {α : Type}
    {own inner : List Type} (name : String) (ownFields : Fields own) (innerFields : Fields inner)
    (build : Row own → Row inner → α) (parts : α → Row own × Row inner)
    (members : List (String × Tree)) :
    (Codec.flattened name ownFields innerFields build parts).decode source (.object members) =
      ownFields.read source members >>= fun row =>
        (innerFields.read Source.buffered (others ownFields members)).map (build row) := by
  have aside := meetAside_eq source reads ownFields ownFields.blank [] members
  have inside := meetMembers_skip Source.buffered Source.buffered_reads innerFields
    innerFields.blank (others ownFields members)
  obtain ⟨surplus, emptyPayload, exact⟩ := reads
  refine Eq.trans (b := meetAside _ ownFields (ownFields.blank, []) members >>= fun met =>
    ownFields.close met.1 >>= fun row =>
      meetMembers (innerFields.put Source.buffered) (fun slots _ _ => .ok slots) innerFields.blank
        (met.2.map fun member : String × Tree => (.ok member.1, member.2)) >>= fun slots =>
          innerFields.close slots >>= fun values => .ok (build row values)) rfl ?_
  rw [aside, ← bind_return, bind_assoc, Fields.read, bind_assoc, Fields.read, ← inside]
  simp only [← bind_return, bind_assoc]
  rfl

/-- A record is read from what its fields gather. -/
theorem record_ok (source : Source Tree) (reads : source.ReadsTrees) {α : Type} {types : List Type}
    (name : String) (fields : Fields types) (build : Row types → α) (parts : α → Row types)
    (named : fields.names.Nodup) (members : List (String × Tree))
    (distinct : (members.map (·.1)).Nodup) (value : α) :
    (Codec.record name fields build parts).decode source (.object members) = .ok value ↔
      ∃ row, fields.gather source members = .ok row ∧ build row = value := by
  rw [decode_record source reads, map_ok]
  simp only [Fields.read_ok source fields members distinct named]

/-- A flattened record is read from what its own fields and the inner ones gather. -/
theorem flattened_ok (source : Source Tree) (reads : source.ReadsTrees) {α : Type}
    {own inner : List Type} (name : String) (ownFields : Fields own) (innerFields : Fields inner)
    (build : Row own → Row inner → α) (parts : α → Row own × Row inner)
    (named : (innerFields.names ++ ownFields.names).Nodup) (members : List (String × Tree))
    (distinct : (members.map (·.1)).Nodup) (value : α) :
    (Codec.flattened name ownFields innerFields build parts).decode source (.object members) =
        .ok value ↔
      ∃ row, ownFields.gather source members = .ok row ∧
        ∃ innerRow, innerFields.gather Source.buffered members = .ok innerRow ∧
          build row innerRow = value := by
  obtain ⟨innerNamed, ownNamed, apart⟩ := List.nodup_append.mp named
  have sameInner : innerFields.gather Source.buffered (others ownFields members) =
      innerFields.gather Source.buffered members := by
    refine innerFields.gather_congr _ _ members fun name present => ?_
    exact member_others ownFields members name fun inside => apart name present name inside rfl
  rw [decode_flattened source reads, bind_ok]
  simp only [map_ok, Fields.read_ok source ownFields members distinct ownNamed,
    Fields.read_ok Source.buffered innerFields _ (others_distinct ownFields members distinct)
      innerNamed, sameInner]

-- Other values

theorem decode_via (source : Source Tree) {α β : Type} (codec : Codec α) (build : α → β)
    (parts : β → α) (tree : Tree) :
    (codec.via build parts).decode source tree = (codec.decode source tree).map build := by
  rw [Codec.decode, ← bind_return]
  rfl

def readEntries {α : Type} (read : Tree → Except Fault α) (dict : Dict α)
    (members : List (String × Tree)) : Except Fault (Dict α) :=
  members.foldlM (fun dict member => (read member.2).map (dict.insert member.1)) dict

def EntryReads {α : Type} (read : Tree → Except Fault α) (member : String × Tree)
    (entry : String × α) : Prop :=
  member.1 = entry.1 ∧ read member.2 = .ok entry.2

theorem put_behind {α : Type} (key : String) (value : α) (entries : List (String × α))
    (before : ∀ entry ∈ entries, entry.1 < key) :
    putSorted key value entries = entries ++ [(key, value)] := by
  induction entries with
  | nil => rfl
  | cons first rest ih =>
      have smaller := before first List.mem_cons_self
      have notBefore : ¬ key < first.1 := fun less =>
        String.lt_irrefl _ (String.lt_trans smaller less)
      have different : key ≠ first.1 := fun same => String.lt_irrefl _ (same ▸ smaller)
      rw [putSorted, if_neg notBefore, if_neg different,
        ih fun entry present => before entry (List.mem_cons_of_mem _ present), List.cons_append]

-- Members in key order are put behind the entries that are there already.
theorem readEntries_ok {α : Type} (read : Tree → Except Fault α) (dict result : Dict α)
    (members : List (String × Tree)) (ascending : Ascending members)
    (behind : ∀ member ∈ members, ∀ entry ∈ dict.entries, entry.1 < member.1) :
    readEntries read dict members = .ok result ↔
      ∃ entries, result.entries = dict.entries ++ entries ∧
        List.Forall₂ (EntryReads read) members entries := by
  induction members generalizing dict with
  | nil =>
      simp only [List.forall₂_nil_left_iff, exists_eq_right, List.append_nil]
      exact ⟨fun same => Except.ok.inj same ▸ rfl, fun same => by
        cases dict
        cases result
        cases same
        rfl⟩
  | cons member rest ih =>
      rw [readEntries, List.foldlM_cons, bind_ok]
      simp only [List.forall₂_cons_left_iff]
      have put : ∀ value, (dict.insert member.1 value).entries =
          dict.entries ++ [(member.1, value)] := fun value =>
        put_behind member.1 value dict.entries (behind member List.mem_cons_self)
      have later : ∀ value, ∀ other ∈ rest,
          ∀ entry ∈ (dict.insert member.1 value).entries, entry.1 < other.1 := by
        intro value other present entry held
        rw [put, List.mem_append, List.mem_singleton] at held
        rcases held with old | rfl
        · exact behind other (List.mem_cons_of_mem _ present) entry old
        · exact ascending_below member rest ascending other present
      constructor
      · rintro ⟨next, first, tail⟩
        cases decoded : read member.2 with
        | error fault =>
            rw [decoded] at first
            cases first
        | ok value =>
            rw [decoded] at first
            cases first
            obtain ⟨entries, same, readRest⟩ :=
              (ih _ (ascending_tail ascending) (later value)).mp tail
            refine ⟨(member.1, value) :: entries, ?_, _, _, ⟨rfl, decoded⟩, readRest, rfl⟩
            rw [same, put, List.append_assoc, List.singleton_append]
      · rintro ⟨_, same, ⟨key, value⟩, entries, ⟨sameKey, decoded⟩, readRest, rfl⟩
        cases sameKey
        refine ⟨dict.insert member.1 value, by rw [decoded]; rfl, ?_⟩
        refine (ih _ (ascending_tail ascending) (later value)).mpr ⟨entries, ?_, readRest⟩
        rw [same, put, List.append_assoc, List.singleton_append]

section Values

attribute [local simp] Codec.decode

variable {source : Source Tree} (reads : source.ReadsTrees) {α β : Type} (tree : Tree)

include reads

theorem decode_text (value : String) :
    Codec.text.decode source tree = .ok value ↔ tree = .text value := by
  obtain ⟨surplus, emptyPayload, exact⟩ := reads
  cases tree <;> simp [Source.treeView, View.mismatch, bind, Except.bind]

theorem decode_bool (value : Bool) :
    Codec.bool.decode source tree = .ok value ↔ tree = .bool value := by
  obtain ⟨surplus, emptyPayload, exact⟩ := reads
  cases tree <;> simp [Source.treeView, View.mismatch, bind, Except.bind]

theorem readNumber_ok (wanted : Wanted) (low high : Int) (build : Int → α) (value : α) :
    readNumber source wanted (readInteger wanted low high build) tree = .ok value ↔
      ∃ number, tree = .int number ∧ (low ≤ number ∧ number ≤ high) ∧ build number = value := by
  obtain ⟨surplus, emptyPayload, exact⟩ := reads
  cases tree with
  | number written =>
      cases written with
      | real double =>
          simp [readNumber, Source.treeView, readInteger, Tree.int, bind, Except.bind]
      | int number =>
          by_cases fits : low ≤ number ∧ number ≤ high <;>
            simp [readNumber, Source.treeView, readInteger, Tree.int, bind, Except.bind, fits]
  | _ => simp [readNumber, Source.treeView, View.mismatch, Tree.int, bind, Except.bind]

theorem decode_int64 (value : Int64) :
    Codec.int64.decode source tree = .ok value ↔ tree = .int value.toInt := by
  rw [Codec.decode, readNumber_ok reads]
  constructor
  · rintro ⟨number, same, fits, rfl⟩
    rw [Int64.toInt_ofInt_of_le (by omega) (by omega)]
    exact same
  · intro same
    have low := value.le_toInt
    have high := value.toInt_lt
    exact ⟨value.toInt, same, by omega, value.ofInt_toInt⟩

theorem decode_uint32 (value : UInt32) :
    Codec.uint32.decode source tree = .ok value ↔ tree = .int value.toNat := by
  rw [Codec.decode, readNumber_ok reads]
  constructor
  · rintro ⟨number, same, fits, rfl⟩
    have small : number.toNat < UInt32.size := by
      rw [UInt32.size]
      omega
    rw [UInt32.toNat_ofNat_of_lt' small, Int.toNat_of_nonneg fits.1]
    exact same
  · intro same
    have high := value.toNat_lt
    exact ⟨value.toNat, same, by omega, by rw [Int.toNat_natCast, UInt32.ofNat_toNat]⟩

theorem decode_uint64 (value : UInt64) :
    Codec.uint64.decode source tree = .ok value ↔ tree = .int value.toNat := by
  rw [Codec.decode, readNumber_ok reads]
  constructor
  · rintro ⟨number, same, fits, rfl⟩
    have small : number.toNat < UInt64.size := by
      rw [UInt64.size]
      omega
    rw [UInt64.toNat_ofNat_of_lt' small, Int.toNat_of_nonneg fits.1]
    exact same
  · intro same
    have high := value.toNat_lt
    exact ⟨value.toNat, same, by omega, by rw [Int.toNat_natCast, UInt64.ofNat_toNat]⟩

theorem decode_null (codec : Codec α) : codec.option.decode source .null = .ok none := by
  obtain ⟨surplus, emptyPayload, exact⟩ := reads
  rfl

theorem decode_present (codec : Codec α) (present : tree ≠ .null) :
    codec.option.decode source tree = (codec.decode source tree).map some := by
  obtain ⟨surplus, emptyPayload, exact⟩ := reads
  cases tree with
  | null => exact absurd rfl present
  | _ => rfl

theorem decode_items (codec : Codec α) (items : List Tree) :
    codec.list.decode source (.list items) = items.mapM (codec.decode source) := by
  obtain ⟨surplus, emptyPayload, exact⟩ := reads
  exact decode_places _ _ codec items _ rfl

theorem decode_list (codec : Codec α) (values : List α) :
    codec.list.decode source tree = .ok values ↔
      ∃ items, tree = .list items ∧
        List.Forall₂ (fun item value => codec.decode source item = .ok value) items values := by
  cases tree with
  | list items =>
      rw [decode_items reads, mapM_ok]
      exact ⟨fun read => ⟨items, rfl, read⟩, fun ⟨_, same, read⟩ => Tree.list.inj same ▸ read⟩
  | _ =>
      obtain ⟨surplus, emptyPayload, exact⟩ := reads
      simp [Source.treeView, View.mismatch, bind, Except.bind]

theorem decode_entries (codec : Codec α) (members : List (String × Tree)) :
    codec.dict.decode source (.object members) =
      readEntries (codec.decode source) Dict.empty members := by
  obtain ⟨surplus, emptyPayload, exact⟩ := reads
  exact decode_named _ _ codec members rfl

theorem decode_dict (codec : Codec α) (dict : Dict α) (sorted : tree.Sorted) :
    codec.dict.decode source tree = .ok dict ↔
      ∃ members, tree = .object members ∧
        List.Forall₂ (EntryReads (codec.decode source)) members dict.entries := by
  cases sorted with
  | object members ascending each =>
      rw [decode_entries reads,
        readEntries_ok _ _ _ _ ascending fun _ _ _ held => absurd held List.not_mem_nil]
      simp [Dict.empty]
  | _ =>
      obtain ⟨surplus, emptyPayload, exact⟩ := reads
      simp [Source.treeView, View.mismatch, bind, Except.bind]

theorem decode_boolOrText (name : String) (value : Bool ⊕ String) :
    (Codec.boolOrText name).decode source tree = .ok value ↔ tree = boolOrTextTree value := by
  obtain ⟨surplus, emptyPayload, exact⟩ := reads
  cases tree <;> cases value <;>
    simp [readBoolOrText, boolOrTextTree, bind, Except.bind]

theorem decode_choice (known : List α) (name : α → String) (value : α)
    (plain : ∀ members, tree ≠ .object members) :
    (Codec.choice known name).decode source tree = .ok value ↔
      ∃ text, tree = .text text ∧ known.find? (fun value => name value == text) = some value := by
  obtain ⟨surplus, emptyPayload, exact⟩ := reads
  cases tree with
  | text written =>
      simp only [Tree.text.injEq, exists_eq_left']
      rw [Codec.decode, readChoice]
      cases found : known.find? fun value => name value == written <;>
        simp [Source.treeTag, found, bind, Except.bind, pure, Except.pure]
  | object members => exact absurd rfl (plain members)
  | _ => simp [readChoice, Source.treeTag, bind, Except.bind]

end Values

end Entitlement.Record
