import Entitlement.Proofs.Agreement
import Entitlement.Proofs.CheckedShapes
import Entitlement.Proofs.TextOrder

/-!
A text and the tree that it holds. A reader of the text meets members in the order of the text and
gets past what it does not want; a reader of the tree meets them in key order. As long as no object
names a member twice both read the same records, so the order of the members never matters.
-/

namespace Entitlement

open Json Record

variable {α : Type}

namespace Json.Document

mutual

/-- A reader that does not want a value gets past it if the value is a tree. -/
theorem whole_skip : (document : Document) → (depth : Nat) → (tree : Tree) →
    document.whole depth = .ok tree → document.skip = .ok ()
  | .null, _, _, _ => rfl
  | .bool _, _, _, _ => rfl
  | .number _, _, _, _ => rfl
  | .text _, _, _, _ => rfl
  | .list items ending, depth, tree, whole => by
      cases whole_level depth _ tree whole with
      | list inner _ trees _ each =>
          rw [skip, skipItems_whole items inner trees each]
          rfl
  | .object members ending, depth, tree, whole => by
      cases whole_level depth _ tree whole with
      | object inner _ trees _ each =>
          rw [skip, skipMembers_whole members inner trees each]
          rfl
  | .broken .., _, _, whole => by cases whole

theorem skipItems_whole : (items : List Document) → (depth : Nat) → (trees : List Tree) →
    List.Forall₂ (fun item tree => item.whole depth = .ok tree) items trees →
    skipItems items = .ok ()
  | [], _, _, _ => rfl
  | item :: items, depth, _ :: trees, each => by
      cases each with
      | cons first each =>
          rw [skipItems, whole_skip item depth _ first, skipItems_whole items depth trees each]
          rfl

theorem skipMembers_whole : (members : List (Except Fault String × Document)) → (depth : Nat) →
    (trees : List (String × Tree)) →
    List.Forall₂ (fun member tree => member.1 = .ok tree.1 ∧
      member.2.whole depth = .ok tree.2) members trees →
    skipMembers members = .ok ()
  | [], _, _, _ => rfl
  | (key, value) :: members, depth, _ :: trees, each => by
      cases each with
      | cons first each =>
          rw [skipMembers, whole_skip value depth _ first.2,
            skipMembers_whole members depth trees each]
          rfl

end

end Json.Document

namespace Record

def Source.Within.Shows (place : Source.Within) (tree : Tree) : Prop :=
  ∃ held, place.document.whole place.depth = .ok held ∧ held.Alike tree

theorem items_shown (inner : Nat) (items : List Document) (trees others : List Tree)
    (each : List.Forall₂ (fun item tree => item.whole inner = .ok tree) items trees)
    (alike : List.Forall₂ Tree.Alike trees others) :
    List.Forall₂ Source.Within.Shows (items.map fun item => ⟨inner, item⟩) others := by
  induction each generalizing others with
  | nil =>
      cases alike
      exact .nil
  | cons first _ ih =>
      cases alike with
      | cons same alike => exact .cons ⟨_, first, same⟩ (ih _ alike)

/-- The keys of an object that is a tree can be read, and its members are set aside as those of the
tree. -/
theorem members_shown (inner : Nat) (members : List (Except Fault String × Document))
    (trees : List (String × Tree))
    (each : List.Forall₂ (fun member tree => member.1 = .ok tree.1 ∧
      member.2.whole inner = .ok tree.2) members trees) :
    ∃ places : List (String × Source.Within),
      members.map (fun member => (member.1, ⟨inner, member.2⟩)) = named places ∧
        List.Forall₂ (SetAside Source.text) places trees := by
  induction each with
  | nil => exact ⟨[], rfl, .nil⟩
  | @cons member tree _ _ first _ ih =>
      obtain ⟨places, same, shown⟩ := ih
      obtain ⟨key, document⟩ := member
      obtain ⟨rfl, whole⟩ := first
      refine ⟨(tree.1, ⟨inner, document⟩) :: places, ?_, .cons ⟨rfl, whole⟩ shown⟩
      rw [List.map_cons, same]
      rfl

theorem documentView_alike (place : Source.Within) (tree : Tree) (shows : place.Shows tree) :
    View.Alike Source.Within.Shows (Source.documentView place)
      (Source.treeView Source.tooLong tree) := by
  obtain ⟨depth, document⟩ := place
  obtain ⟨held, whole, alike⟩ := shows
  cases Document.whole_level depth document held whole with
  | null =>
      cases alike.level
      exact .null
  | bool value =>
      cases alike.level
      exact .bool value
  | number value =>
      cases alike.level
      exact .number value
  | text value =>
      cases alike.level
      exact .text value
  | list inner items trees entered each =>
      cases alike.level with
      | list _ others same =>
          have view : Source.documentView ⟨depth, .list items .closed⟩ =
              .list (.ok (items.map fun item => ⟨inner, item⟩)) none fun taken =>
                if taken < items.length then some .trailingCharacters else none := by
            simp only [Source.documentView, entered]
            rfl
          rw [view]
          refine .list _ others _ _ (items_shown inner items trees others each same) ?_ ?_
          · simp
          · simp [Source.tooLong]
  | object inner members trees entered each =>
      cases alike.level with
      | object _ others keys alsoKeys same =>
          obtain ⟨places, entries, shown⟩ := members_shown inner members trees each
          obtain ⟨names, read⟩ := aside_members Source.text places trees shown
          have view : Source.documentView ⟨depth, .object members .closed⟩ =
              .object (.ok (named places)) none := by
            rw [← entries]
            simp only [Source.documentView, entered]
            rfl
          rw [view]
          refine .object places others (names ▸ keys) alsoKeys fun key => ?_
          exact rel_through (rel_flip (read key)) (same key) fun held place tree whole alike =>
            ⟨held, whole, alike⟩

theorem documentTag_member (depth inner : Nat) (key : Except Fault String) (payload : Document)
    (rest : List (Except Fault String × Document)) (entered : Document.enter depth = .ok inner) :
    Source.documentTag ⟨depth, .object ((key, payload) :: rest) .closed⟩ =
      .ok ⟨key, some ⟨inner, payload⟩, Source.tagEnd rest .closed⟩ := by
  simp only [Source.documentTag, entered]
  rfl

theorem documentTag_alike (place : Source.Within) (tree : Tree) (shows : place.Shows tree) :
    Tag.Alike Source.Within.Shows (Source.documentTag place) (Source.treeTag tree) := by
  obtain ⟨depth, document⟩ := place
  obtain ⟨held, whole, alike⟩ := shows
  cases Document.whole_level depth document held whole with
  | text value =>
      cases alike.level
      exact .text value
  | object inner members trees entered each =>
      cases alike.level with
      | object _ others keys alsoKeys same =>
          cases each with
          | nil =>
              rw [treeTag_many others (many_alike [] others keys same (by simp))]
              refine .refused _ _ (fun _ tagged => ?_) (Tag.refused_error _)
              simp only [Source.documentTag, entered] at tagged
              cases tagged
          | @cons member tree rest trees first each =>
              obtain ⟨key, payload⟩ := member
              obtain ⟨name, held⟩ := tree
              obtain ⟨rfl, shown⟩ := first
              rw [documentTag_member depth inner _ payload rest entered]
              cases each with
              | nil =>
                  obtain ⟨other, rfl, inside⟩ := single_alike name held others alsoKeys same
                  have shows : Source.Within.Shows ⟨inner, payload⟩ other := ⟨held, shown, inside⟩
                  exact .single name _ other shows
              | cons second each =>
                  rw [treeTag_many others (many_alike _ others keys same (by simp))]
                  refine .refused _ _ (fun _ tagged => ?_) (Tag.refused_error _)
                  cases tagged
                  exact ⟨nofun, nofun⟩
  | _ =>
      cases alike.level
      exact .refused _ _ (Tag.refused_error _) (Tag.refused_error _)

/-- The text and the tree of a document are read alike. -/
theorem Source.text_alike : Source.text.Alike Source.tree Source.Within.Shows where
  look := documentView_alike
  isNull place tree shows := by
    obtain ⟨depth, document⟩ := place
    obtain ⟨held, whole, alike⟩ := shows
    cases Document.whole_level depth document held whole <;> cases alike.level <;>
      exact ⟨_, rfl, rfl⟩
  tag := documentTag_alike
  emptyPayload := rfl
  skip place tree shows := by
    obtain ⟨held, whole, _⟩ := shows
    exact ⟨Document.whole_skip place.document place.depth held whole, rfl⟩
  whole place tree shows := by
    obtain ⟨held, whole, alike⟩ := shows
    exact ⟨held, tree, whole, rfl, alike⟩

end Record

/-- A text without repeated names is read as the tree that it holds. -/
theorem ofBytes_held (codec : Codec α) (lawful : codec.Lawful) (body : List UInt8) (tree : Tree)
    (held : Holds body tree) (distinct : tree.Distinct) (value : α) :
    codec.ofBytes body = .ok value ↔ codec.ofTree tree = .ok value := by
  obtain ⟨whole, ends⟩ := held
  have shows : Source.Within.Shows ⟨Document.depthLimit, (Document.read (Text.pieces body)).1⟩
      tree.canonical := ⟨tree, whole, distinct.alike_canonical⟩
  have unfolded : codec.ofBytes body =
      codec.decode Source.text ⟨Document.depthLimit, (Document.read (Text.pieces body)).1⟩ >>=
        fun value => endOfText (Document.read (Text.pieces body)).2 >>= fun _ => .ok value := rfl
  rw [unfolded, ends, bind_ok]
  constructor
  · rintro ⟨_, decoded, same⟩
    cases same
    exact Codec.decode_alike lawful Source.text_alike _ _ shows value decoded
  · intro decoded
    exact ⟨value, Codec.decode_alike lawful Source.text_alike.symm _ _ shows value decoded, rfl⟩

/-- A text is read as the tree that it holds, in whatever order the members of its objects are. -/
structure Record.Codec.TextAgrees (codec : Codec α) : Prop where
  direct : ∀ (body : List UInt8) (tree : Tree), Holds body tree → tree.Distinct →
    ∀ value, codec.ofBytes body = .ok value ↔ codec.ofTree tree = .ok value
  /-- The tree may also be parsed first, which puts the members in key order. -/
  parsed : ∀ (body : List UInt8) (tree parsed : Tree), Holds body tree → tree.Distinct →
    Tree.ofPieces (Text.pieces body) = .ok parsed →
      ∀ value, codec.ofBytes body = .ok value ↔ codec.ofTree parsed = .ok value
  /-- The members may change places in the text. -/
  reordered : ∀ (body other : List UInt8) (tree : Tree), Holds body tree → tree.Distinct →
    TextReordered (Text.pieces body) (Text.pieces other) →
      ∀ value, codec.ofBytes other = .ok value ↔ codec.ofBytes body = .ok value
  /-- Any other text will do that holds the tree with its members in another order. -/
  respelled : ∀ (body other : List UInt8) (tree reordered : Tree), Holds body tree →
    tree.Distinct → tree.Reordered reordered → Holds other reordered →
      ∀ value, codec.ofBytes other = .ok value ↔ codec.ofBytes body = .ok value

theorem ofBytes_reordered (codec : Codec α) (lawful : codec.Lawful) (body other : List UInt8)
    (tree reordered : Tree) (held : Holds body tree) (distinct : tree.Distinct)
    (order : tree.Reordered reordered) (alsoHeld : Holds other reordered) (value : α) :
    codec.ofBytes other = .ok value ↔ codec.ofBytes body = .ok value := by
  have alike := order.alike distinct
  rw [ofBytes_held codec lawful body tree held distinct,
    ofBytes_held codec lawful other reordered alsoHeld alike.alsoDistinct, Codec.ofTree,
    Codec.ofTree, alike.same]

theorem Record.Codec.Lawful.textAgrees {codec : Codec α} (lawful : codec.Lawful) :
    codec.TextAgrees where
  direct := ofBytes_held codec lawful
  parsed body tree parsed held distinct parses value := by
    rw [(ofPieces_ok body tree.canonical).mpr ⟨tree, held, rfl⟩] at parses
    cases parses
    rw [ofTree_canonical]
    exact ofBytes_held codec lawful body tree held distinct value
  reordered body other tree held distinct order value := by
    obtain ⟨reordered, alsoOrder, spells⟩ := order.spells tree ((holds_spells body tree).mp held)
    exact ofBytes_reordered codec lawful body other tree reordered held distinct alsoOrder
      ((holds_spells other reordered).mpr spells) value
  respelled := ofBytes_reordered codec lawful

/-- Records of every type are read from a text as they are from its tree, and so are their parts and
lists of them. -/
theorem text_read_as_tree :
    (∀ type : WireType, type.codec.TextAgrees) ∧
      ∀ (α : Type) (codec : Codec α), codec.Lawful → codec.TextAgrees :=
  ⟨fun type => type.codec_lawful.textAgrees, fun _ _ lawful => lawful.textAgrees⟩

def looseMembers : List (String × Tree) :=
  [("pricingSystems", .list []), ("note", .object [("b", .null), ("a", .null)]),
    ("targetAudiences", .list [.object [("PRO", .object [])]]), ("isLegacy", .bool false),
    ("nameByLocale", .object [("fr", .text "Or"), ("en", .text "Gold")]),
    ("descriptionByLocale", .object []), ("id", .text "gold")]

theorem looseMembers_distinct : (Tree.object looseMembers).Distinct := by
  have none : (Tree.object []).Distinct := .object [] .nil nofun
  have note : (Tree.object [("b", .null), ("a", .null)]).Distinct :=
    .object _ (by decide) (by simp [Tree.Distinct.null])
  have audiences : (Tree.list [.object [("PRO", .object [])]]).Distinct :=
    .list _ (by simpa using .object _ (by decide) (by simpa using none))
  have names : (Tree.object [("fr", .text "Or"), ("en", .text "Gold")]).Distinct :=
    .object _ (by decide) (by simp [Tree.Distinct.text])
  refine .object _ (by decide) ?_
  simpa [looseMembers] using ⟨.list [] nofun, note, audiences, .bool false, names, none,
    .text "gold"⟩

theorem loose_read_as_tree :
    ∃ offer, Offer.codec.ofTree (.object looseMembers) = .ok offer ∧
      Offer.codec.ofBytes (Text.bytes (Tree.object looseMembers).write) = .ok offer ∧
        Offer.codec.ofBytes (Text.bytes (Tree.object looseMembers.reverse).write) = .ok offer := by
  have fits : (Tree.object looseMembers).fits Document.depthLimit = true := by decide
  have read : Offer.codec.ofTree (.object looseMembers) = .ok _ := rfl
  have held := holds_written (.object looseMembers) fits
  have order := written_reordered looseMembers looseMembers.reverse fits
    (List.reverse_perm looseMembers).symm
  obtain ⟨direct, _, reordered, _⟩ := text_read_as_tree.1 .offer
  have written := (direct _ _ held looseMembers_distinct _).mpr read
  exact ⟨_, read, written,
    (reordered _ _ _ held looseMembers_distinct order _).mpr written⟩

end Entitlement
