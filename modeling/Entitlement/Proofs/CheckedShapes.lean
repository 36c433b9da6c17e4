import Entitlement.Proofs.Interpretation
import Entitlement.Proofs.JsonText
import Entitlement.Proofs.Lookup
import Entitlement.Proofs.WireFormat

/-!
Replies that are JSON of any shape until they are looked into. The balance of a user is the first
record of a list, whatever follows it; the address of the customer portal is a member of an object.
What is looked into is the whole tree, so of several members of one name the last one counts.
-/

namespace Entitlement

open Json Record

variable {α : Type}

-- Bodies

/-- A body is the text of a value and of nothing else. The members of an object are those of the
text, in its order; values within one another are not deeper than a reader goes. -/
def Holds (body : List UInt8) (tree : Tree) : Prop :=
  (Document.read (Text.pieces body)).1.whole Document.depthLimit = .ok tree ∧
    endOfText (Document.read (Text.pieces body)).2 = .ok ()

theorem ofPieces_ok (body : List UInt8) (tree : Tree) :
    Tree.ofPieces (Text.pieces body) = .ok tree ↔
      ∃ held, Holds body held ∧ held.canonical = tree := by
  have unfolded : Tree.ofPieces (Text.pieces body) =
      (Document.read (Text.pieces body)).1.whole Document.depthLimit >>= fun held =>
        endOfText (Document.read (Text.pieces body)).2 >>= fun _ => .ok held.canonical := rfl
  rw [unfolded, bind_ok]
  constructor
  · rintro ⟨held, whole, ends⟩
    obtain ⟨_, stops, same⟩ := (bind_ok _ _ _).mp ends
    exact ⟨held, ⟨whole, stops⟩, Except.ok.inj same⟩
  · rintro ⟨held, ⟨whole, stops⟩, rfl⟩
    exact ⟨held, whole, (bind_ok _ _ _).mpr ⟨(), stops, rfl⟩⟩

/-- A body holds a tree if its text spells it out. -/
theorem holds_spells (body : List UInt8) (tree : Tree) :
    Holds body tree ↔ Document.Spells Document.depthLimit (Text.pieces body) tree := by
  rcases read : Document.read (Text.pieces body) with ⟨document, after⟩
  rw [Holds, read]
  constructor
  · rintro ⟨whole, ends⟩
    refine (spells_read ⟨after, read, ?_⟩).mpr whole
    rw [endOfText] at ends
    split at ends
    case h_1 blank => exact blank
    case h_2 => cases ends
  · rintro ⟨other, ⟨⟨blank, alsoRead, ends⟩, _⟩, whole⟩
    cases read.symm.trans alsoRead
    exact ⟨whole, by rw [endOfText, ends]⟩

/-- A value without numbers is held by the text that it is written as. -/
theorem holds_written (tree : Tree) (fits : tree.fits Document.depthLimit = true) :
    Holds (Text.bytes tree.write) tree :=
  (holds_spells _ tree).mpr (write_spells tree fits)

-- Records in a tree

/-- The trees that are a balance: an object by the last member of each name, or the list of the five
values. -/
inductive Earnings.ShownBy (earnings : Earnings) : Tree → Prop where
  | object (members : List (String × Tree))
      (user : memberOf "userId" members.reverse = some (.text earnings.userId))
      (amount : memberOf "amountInMilliUSDs" members.reverse =
        some (.int earnings.amountInMilliUsd.toInt))
      (credits : memberOf "amountInCredits" members.reverse =
        some (.int earnings.amountInCredits.toInt))
      (least : memberOf "minAmountToCashoutInMilliUSDs" members.reverse =
        some (.int earnings.leastCashOutInMilliUsd.toInt))
      (updated : memberOf "updatedAt" members.reverse = some (.int earnings.updatedAt.toInt)) :
      ShownBy earnings (.object members)
  | list : ShownBy earnings (.list [.text earnings.userId, .int earnings.amountInMilliUsd.toInt,
      .int earnings.amountInCredits.toInt, .int earnings.leastCashOutInMilliUsd.toInt,
      .int earnings.updatedAt.toInt])

/-- A field that must be there is gathered from the last member of its name. -/
theorem gather_required {types : List Type} (name : String) (codec : Codec α)
    (rest : Fields types) (members : List (String × Tree)) (value : α) (row : Row types)
    (shown : Tree)
    (reads : ∀ tree : Tree, codec.decode Source.tree tree.canonical = .ok value ↔ tree = shown) :
    (Fields.field name codec .required rest).gather Source.tree
        (sortMembers (members.map fun member => (member.1, member.2.canonical))) =
          .ok (value, row) ↔
      memberOf name members.reverse = some shown ∧ rest.gather Source.tree
        (sortMembers (members.map fun member => (member.1, member.2.canonical))) = .ok row := by
  rw [Fields.gather_field, Tree.canonical_member]
  refine and_congr_left' ?_
  cases memberOf name members.reverse with
  | none => exact ⟨nofun, nofun⟩
  | some tree => exact (reads tree).trans Option.some_inj.symm

/-- A field that must be there takes the next item of a list. -/
theorem listed_required {types : List Type} (name : String) (codec : Codec α)
    (rest : Fields types) (items : List Tree) (value : α) (row : Row types) (shown : Tree)
    (reads : ∀ tree : Tree, codec.decode Source.tree tree.canonical = .ok value ↔ tree = shown) :
    (Fields.field name codec .required rest).Listed Source.tree (items.map Tree.canonical)
        (value, row) ↔
      ∃ others, items = shown :: others ∧
        rest.Listed Source.tree (others.map Tree.canonical) row := by
  cases items with
  | nil =>
      refine iff_of_false (fun ⟨missing, _⟩ => ?_) (by simp)
      cases missing
  | cons item items =>
      constructor
      · rintro ⟨read, listed⟩
        exact ⟨items, by rw [(reads item).mp read], listed⟩
      · rintro ⟨_, same, listed⟩
        cases same
        exact ⟨(reads shown).mpr rfl, listed⟩

theorem text_shown (value : String) (tree : Tree) :
    Codec.text.decode Source.tree tree.canonical = .ok value ↔ tree = .text value := by
  rw [decode_text Source.tree_reads, Tree.canonical_text]

theorem int64_shown (value : Int64) (tree : Tree) :
    Codec.int64.decode Source.tree tree.canonical = .ok value ↔ tree = .int value.toInt := by
  rw [decode_int64 Source.tree_reads, Tree.canonical_int]

namespace Earnings

theorem ofTree_object (members : List (String × Tree)) (earnings : Earnings) :
    codec.ofTree (.object members) = .ok earnings ↔ earnings.ShownBy (.object members) := by
  rw [Codec.ofTree, Tree.canonical_object]
  refine (record_ok Source.tree Source.tree_reads _ _ _ _ (by decide) _ (sort_distinct _)
    _).trans ?_
  constructor
  · rintro ⟨⟨user, amount, credits, least, updated, _⟩, gathered, rfl⟩
    obtain ⟨user, gathered⟩ := (gather_required _ _ _ _ _ _ _ (text_shown user)).mp gathered
    obtain ⟨amount, gathered⟩ := (gather_required _ _ _ _ _ _ _ (int64_shown amount)).mp gathered
    obtain ⟨credits, gathered⟩ :=
      (gather_required _ _ _ _ _ _ _ (int64_shown credits)).mp gathered
    obtain ⟨least, gathered⟩ := (gather_required _ _ _ _ _ _ _ (int64_shown least)).mp gathered
    obtain ⟨updated, _⟩ := (gather_required _ _ _ _ _ _ _ (int64_shown updated)).mp gathered
    exact .object members user amount credits least updated
  · rintro (⟨_, user, amount, credits, least, updated⟩ | _)
    refine ⟨(_, _, _, _, _, ()), ?_, rfl⟩
    refine (gather_required _ _ _ _ _ _ _ (text_shown _)).mpr ⟨user, ?_⟩
    refine (gather_required _ _ _ _ _ _ _ (int64_shown _)).mpr ⟨amount, ?_⟩
    refine (gather_required _ _ _ _ _ _ _ (int64_shown _)).mpr ⟨credits, ?_⟩
    refine (gather_required _ _ _ _ _ _ _ (int64_shown _)).mpr ⟨least, ?_⟩
    exact (gather_required _ _ _ _ _ _ _ (int64_shown _)).mpr ⟨updated, rfl⟩

theorem ofTree_list (items : List Tree) (earnings : Earnings) :
    codec.ofTree (.list items) = .ok earnings ↔ earnings.ShownBy (.list items) := by
  rw [Codec.ofTree, Tree.canonical_list]
  refine (decode_listed Source.tree_reads _ _ _ _ _ _).trans ?_
  constructor
  · rintro ⟨short, ⟨user, amount, credits, least, updated, _⟩, listed, rfl⟩
    obtain ⟨_, rfl, four⟩ := (listed_required _ _ _ _ _ _ _ (text_shown user)).mp listed
    obtain ⟨_, rfl, three⟩ := (listed_required _ _ _ _ _ _ _ (int64_shown amount)).mp four
    obtain ⟨_, rfl, two⟩ := (listed_required _ _ _ _ _ _ _ (int64_shown credits)).mp three
    obtain ⟨_, rfl, one⟩ := (listed_required _ _ _ _ _ _ _ (int64_shown least)).mp two
    obtain ⟨more, rfl, _⟩ := (listed_required _ _ _ _ _ _ _ (int64_shown updated)).mp one
    -- A sixth item would be one more than there are fields.
    cases more with
    | nil => exact .list
    | cons item more =>
        simp only [List.length_map, List.length_cons, Fields.count] at short
        omega
  · rintro (_ | _)
    refine ⟨Nat.le_refl 5, (_, _, _, _, _, ()), ?_, rfl⟩
    refine (listed_required _ _ _ _ _ _ _ (text_shown _)).mpr ⟨_, rfl, ?_⟩
    refine (listed_required _ _ _ _ _ _ _ (int64_shown _)).mpr ⟨_, rfl, ?_⟩
    refine (listed_required _ _ _ _ _ _ _ (int64_shown _)).mpr ⟨_, rfl, ?_⟩
    refine (listed_required _ _ _ _ _ _ _ (int64_shown _)).mpr ⟨_, rfl, ?_⟩
    exact (listed_required _ _ _ _ _ _ _ (int64_shown _)).mpr ⟨[], rfl, trivial⟩

theorem ofTree_ok (tree : Tree) (earnings : Earnings) :
    codec.ofTree tree = .ok earnings ↔ earnings.ShownBy tree := by
  cases tree with
  | object members => exact ofTree_object members earnings
  | list items => exact ofTree_list items earnings
  | _ => exact ⟨nofun, nofun⟩

end Earnings

-- Calls

inductive Call.Makes (call : Call α) (body : List UInt8) : Except Failure α → Prop where
  | intro (client : Client) (provider : Provider) (network : Network) (log : Log)
      (request : Request) (reply : Reply)
      (sent : (call.run client provider network log).2.sent = log.sent ++ [request])
      (answered : network.deliver request = .answered reply) (whole : reply.isComplete = true)
      (least : 200 ≤ reply.status) (greatest : reply.status ≤ 299) (same : reply.body = body) :
      Makes call body (call.run client provider network log).1.result

theorem tree_complete (reply : Reply) (succeeds : reply.isSuccess = true)
    (complete : reply.isComplete = true) :
    reply.tree = Reply.readable (Tree.ofPieces (Text.pieces reply.body)) := by
  rw [Reply.tree, Reply.success, reply.accept_success succeeds, Reply.content, if_pos complete]
  rfl

/-- A call that looks into the JSON of a reply makes of a body what it finds in its tree. -/
theorem makes_tree (call : Call α) (ask : Ask) (isForUser : Bool) (look : Tree → Outcome α)
    (looks : ∀ platform, call.shape platform = .single (.ofTree ask isForUser look))
    (body : List UInt8) (result : Except Failure α) (makes : call.Makes body result) :
    result = Reply.readable (Tree.ofPieces (Text.pieces body)) >>= fun tree =>
      (look tree).result := by
  obtain ⟨client, provider, network, log, request, reply, sent, answered, whole, least, greatest,
    rfl⟩ := makes
  rw [run_answered call client provider network log _ (looks client.platform) request sent,
    answered]
  have read := tree_complete reply (reply.isSuccess_iff.mpr ⟨least, greatest⟩) whole
  show ((Outcome.quiet reply.tree).andThen look).result = _
  rw [read]
  cases Reply.readable (Tree.ofPieces (Text.pieces reply.body)) <;> rfl

theorem readable_held (body : List UInt8) (tree : Tree) (held : Holds body tree) :
    Reply.readable (Tree.ofPieces (Text.pieces body)) = .ok tree.canonical :=
  (Reply.readable_ok _ _).mpr ((ofPieces_ok body _).mpr ⟨tree, held, rfl⟩)

theorem readable_broken (body : List UInt8) (broken : ∀ tree, ¬ Holds body tree) :
    ∃ fault, Reply.readable (Tree.ofPieces (Text.pieces body)) = .error (.unreadable fault) := by
  cases read : Tree.ofPieces (Text.pieces body) with
  | ok tree =>
      obtain ⟨held, holds, _⟩ := (ofPieces_ok body tree).mp read
      exact absurd holds (broken held)
  | error fault => exact ⟨fault, rfl⟩

structure Earnings.Reads (body : List UInt8) (result : Except Failure Earnings) : Prop where
  broken : (∀ tree, ¬ Holds body tree) → ∃ fault, result = .error (.unreadable fault)
  noList : ∀ tree, Holds body tree → (∀ items, tree ≠ .list items) →
    result = .error (.invalidResponse "Invalid response from the user earnings API")
  noItem : Holds body (.list []) →
    result = .error (.invalidResponse "No user earnings balance found")
  first : ∀ first rest, Holds body (.list (first :: rest)) →
    (∀ balance, result = .ok balance ↔ Earnings.codec.ofTree first = .ok balance) ∧
      ∀ fault, result = .error (.unreadable fault) ↔ Earnings.codec.ofTree first = .error fault

structure PortalUrl.Reads (body : List UInt8) (result : Except Failure String) : Prop where
  broken : (∀ tree, ¬ Holds body tree) → ∃ fault, result = .error (.unreadable fault)
  found : ∀ url, result = .ok url ↔ url ≠ "" ∧ ∃ members, Holds body (.object members) ∧
    memberOf "sessionPortalUrl" members.reverse = some (.text url)
  missing : ∀ tree, Holds body tree → (∀ url, result ≠ .ok url) →
    result = .error (.invalidResponse "Could not find the session portal url.")

/-- A sorted tree gives the record that the tree gives. -/
theorem ofTree_canonical (codec : Codec α) (tree : Tree) :
    codec.ofTree tree.canonical = codec.ofTree tree := by
  rw [Codec.ofTree, (Tree.canonical_sorted tree).canonical_same, Codec.ofTree]

theorem earnings_makes (userId : String) (body : List UInt8) (result : Except Failure Earnings)
    (makes : (Call.earnings userId).Makes body result) (tree : Tree) (held : Holds body tree) :
    result = (Reply.earningsOf tree.canonical).result := by
  rw [makes_tree _ _ _ Reply.earningsOf (fun _ => rfl) body result makes,
    readable_held body tree held]
  rfl

theorem earnings_first (userId : String) (body : List UInt8) (result : Except Failure Earnings)
    (makes : (Call.earnings userId).Makes body result) (first : Tree) (rest : List Tree)
    (held : Holds body (.list (first :: rest))) :
    result = Reply.readable (Earnings.codec.ofTree first) := by
  rw [earnings_makes userId body result makes _ held, Tree.canonical_list, List.map_cons,
    Reply.earningsOf, ofTree_canonical]
  rfl

theorem earnings_read (userId : String) (body : List UInt8) (result : Except Failure Earnings)
    (makes : (Call.earnings userId).Makes body result) : Earnings.Reads body result where
  broken broken := by
    obtain ⟨fault, unread⟩ := readable_broken body broken
    refine ⟨fault, ?_⟩
    rw [makes_tree _ _ _ Reply.earningsOf (fun _ => rfl) body result makes, unread]
    rfl
  noList tree held other := by
    rw [earnings_makes userId body result makes tree held]
    cases tree with
    | list items => exact absurd rfl (other items)
    | object members =>
        rw [Tree.canonical_object]
        rfl
    | _ => rfl
  noItem held := earnings_makes userId body result makes _ held
  first first rest held := by
    rw [earnings_first userId body result makes first rest held]
    exact ⟨Reply.readable_ok _, Reply.readable_error _⟩

theorem text?_some (tree : Tree) (text : String) : tree.text? = some text ↔ tree = .text text := by
  cases tree <;> simp [Tree.text?]

theorem member?_canonical (tree : Tree) (key : String) (held : Tree) :
    tree.canonical.member? key = some held ↔ ∃ members, tree = .object members ∧
      ∃ last, memberOf key members.reverse = some last ∧ last.canonical = held := by
  cases tree with
  | object members =>
      rw [Tree.canonical_object, Tree.member?, Tree.canonical_member]
      simp
  | list items =>
      rw [Tree.canonical_list]
      simp [Tree.member?]
  | _ => simp [Tree.canonical, Tree.member?]

/-- What is found in a tree is the last address of an object, if that is a text and not empty. -/
theorem found_url (tree : Tree) (url : String) :
    ((tree.canonical.member? "sessionPortalUrl").bind Tree.text?).bind nonEmpty? = some url ↔
      url ≠ "" ∧ ∃ members, tree = .object members ∧
        memberOf "sessionPortalUrl" members.reverse = some (.text url) := by
  simp only [Option.bind_eq_some_iff, text?_some, nonEmpty?_some, member?_canonical]
  constructor
  · rintro ⟨_, ⟨_, ⟨members, object, last, found, same⟩, rfl⟩, rfl, filled⟩
    rw [Tree.canonical_text] at same
    exact ⟨filled, members, object, same ▸ found⟩
  · rintro ⟨filled, members, object, found⟩
    exact ⟨url, ⟨_, ⟨members, object, _, found, rfl⟩, rfl⟩, rfl, filled⟩

theorem portalUrlOf_ok (tree : Tree) (url : String) :
    (Reply.portalUrlOf tree).result = .ok url ↔
      ((tree.member? "sessionPortalUrl").bind Tree.text?).bind nonEmpty? = some url := by
  rw [Reply.portalUrlOf]
  cases ((tree.member? "sessionPortalUrl").bind Tree.text?).bind nonEmpty? <;> simp [Outcome.quiet]

theorem portal_read (userId : String) (body : List UInt8) (result : Except Failure String)
    (makes : (Call.portalUrl userId).Makes body result) : PortalUrl.Reads body result := by
  have made := makes_tree _ _ _ Reply.portalUrlOf (fun _ => rfl) body result makes
  have looked : ∀ tree, Holds body tree → result = (Reply.portalUrlOf tree.canonical).result := by
    intro tree held
    rw [made, readable_held body tree held]
    rfl
  constructor
  case broken =>
    intro broken
    obtain ⟨fault, unread⟩ := readable_broken body broken
    refine ⟨fault, ?_⟩
    rw [made, unread]
    rfl
  case found =>
    intro url
    constructor
    · intro succeeded
      rw [made] at succeeded
      obtain ⟨_, read, found⟩ := (bind_ok _ _ _).mp succeeded
      obtain ⟨tree, held, rfl⟩ := (ofPieces_ok body _).mp ((Reply.readable_ok _ _).mp read)
      obtain ⟨filled, members, rfl, last⟩ :=
        (found_url tree url).mp ((portalUrlOf_ok _ url).mp found)
      exact ⟨filled, members, held, last⟩
    · rintro ⟨filled, members, held, last⟩
      rw [looked _ held, portalUrlOf_ok, found_url]
      exact ⟨filled, members, rfl, last⟩
  case missing =>
    intro tree held unfound
    rw [looked tree held] at unfound ⊢
    rw [Reply.portalUrlOf]
    split
    · next url found => exact absurd ((portalUrlOf_ok _ url).mpr found) (unfound url)
    · rfl

/-- The two calls that look into the JSON of a reply, by the body of any success. -/
structure ShapesChecked : Prop where
  held : ∀ tree : Tree, tree.fits Document.depthLimit = true → Holds (Text.bytes tree.write) tree
  earnings : ∀ (userId : String) (body : List UInt8) (result : Except Failure Earnings),
    (Call.earnings userId).Makes body result → Earnings.Reads body result
  /-- What follows the first record of a list does not matter. -/
  alike : ∀ (userId : String) (body other : List UInt8) (result another : Except Failure Earnings)
    (first : Tree) (rest others : List Tree), Holds body (.list (first :: rest)) →
      Holds other (.list (first :: others)) → (Call.earnings userId).Makes body result →
        (Call.earnings userId).Makes other another → result = another
  shown : ∀ (tree : Tree) (earnings : Earnings),
    Earnings.codec.ofTree tree = .ok earnings ↔ earnings.ShownBy tree
  portal : ∀ (userId : String) (body : List UInt8) (result : Except Failure String),
    (Call.portalUrl userId).Makes body result → PortalUrl.Reads body result

theorem shapes_checked : ShapesChecked where
  held := holds_written
  earnings := earnings_read
  alike userId body other result another first rest others held heldToo makes makesToo := by
    rw [earnings_first userId body result makes first rest held,
      earnings_first userId other another makesToo first others heldToo]
  shown := Earnings.ofTree_ok
  portal := portal_read

theorem answered_makes (reply : Reply) (call : Call α)
    (once : (answeredBy reply call).2.sent.length = 1) (whole : reply.isComplete = true)
    (least : 200 ≤ reply.status) (greatest : reply.status ≤ 299) :
    call.Makes reply.body (answeredBy reply call).1.result := by
  obtain ⟨request, sent⟩ := List.length_eq_one_iff.mp once
  exact .intro localClient (BearerToken.provider ⟨"token"⟩) (answering reply) .start request reply
    sent rfl whole least greatest rfl

def balanceReply : Reply :=
  ⟨200, Text.bytes ("[\x7b\"userId\":\"eve\",\"amountInMilliUSDs\":2500,\"amountInCredits\":0," ++
    "\"minAmountToCashoutInMilliUSDs\":1000,\"updatedAt\":7,\"userId\":\"ada\"\x7d, 0]"), true⟩

def portalReply : Reply :=
  ⟨201, Text.bytes "\x7b\"sessionPortalUrl\":1,\"sessionPortalUrl\":\"https://pay\"\x7d", true⟩

theorem repeated_members_checked :
    let balance := (answeredBy balanceReply (.earnings "ada")).1.result
    let portal := (answeredBy portalReply (.portalUrl "ada")).1.result
    (Earnings.Reads balanceReply.body balance ∧
        balance.toOption = some ⟨"ada", 2500, 0, 1000, 7⟩) ∧
      PortalUrl.Reads portalReply.body portal ∧ portal.toOption = some "https://pay" := by
  intro balance portal
  have balanceMakes : (Call.earnings "ada").Makes balanceReply.body balance :=
    answered_makes balanceReply _ (by decide +kernel) rfl (by decide) (by decide)
  have portalMakes : (Call.portalUrl "ada").Makes portalReply.body portal :=
    answered_makes portalReply _ (by decide +kernel) rfl (by decide) (by decide)
  exact ⟨⟨shapes_checked.earnings "ada" _ _ balanceMakes, by decide +kernel⟩,
    shapes_checked.portal "ada" _ _ portalMakes, by decide +kernel⟩

end Entitlement
