import Entitlement.Proofs.HostText
import Entitlement.Proofs.ServedBase

/-!
Links to the checkout page say what they were made for. The part of a link before its query is
written without a question mark and a number sign, whatever host and path the base has, so the query
starts where it was added; and the query reads back as the arguments.
-/

namespace Entitlement

open Text

-- What stands before the query

theorem encoded_open (kept : Char → Bool)
    (strict : ∀ c, kept c = true → (!Url.endsPath c) = true) (text : List Char) :
    ∀ c ∈ percentEncode kept text, (!Url.endsPath c) = true := by
  have digits : ∀ value < 16, (!Url.endsPath (upperHex value)) = true := by decide
  intro written present
  obtain ⟨c, _, inside⟩ := List.mem_flatMap.mp present
  rcases Form.mem_percentChar kept c written inside with rfl | ⟨value, small, rfl⟩ | ⟨rfl, isKept⟩
  · decide
  · exact digits value small
  · exact strict written isKept

theorem userKept_open (c : Char) (kept : keptInUser c = true) : (!Url.endsPath c) = true := by
  rw [keptInUser, Bool.and_eq_true] at kept
  exact Url.kept_open c kept.1

theorem hostOf_open (host after : List Char) (found : Option Host)
    (read : Authority.hostOf .web host after = .ok found) :
    ∀ c ∈ Authority.hostText found, (!Url.endsPath c) = true := by
  rw [Authority.hostOf] at read
  split at read
  · cases read
  · change (Host.ofWebText host).map some = _ at read
    obtain ⟨held, readHost, rfl⟩ := (map_ok _ _ _).mp read
    exact ofWebText_open host held readHost

theorem port_open (port : Option Nat) :
    ∀ c ∈ Authority.portText port, (!Url.endsPath c) = true := by
  cases port with
  | none => simp [Authority.portText]
  | some port =>
      rw [Authority.portText, List.forall_mem_cons]
      exact ⟨by decide, toDigits_open 10 (by decide) (by decide) port⟩

/-- User, host and port are written without a question mark and a number sign. -/
theorem authority_open (scheme place : List Char) (web : SchemeKind.ofScheme scheme = .web)
    (authority : Authority) (behind : List Char)
    (found : Authority.read scheme place = .ok (authority, behind)) :
    ∀ c ∈ authority.text, (!Url.endsPath c) = true := by
  obtain ⟨user, password⟩ := Prod.mk.inj (read_user scheme place authority behind found)
  obtain ⟨_, host, after, readHost⟩ := Authority.read_found scheme place web authority behind found
  have encoded := encoded_open keptInUser userKept_open
  have info : ∀ c ∈ authority.userInfoText, (!Url.endsPath c) = true := by
    rw [Authority.userInfoText, user, password]
    split
    · simp only [List.forall_mem_append, List.forall_mem_singleton]
      refine ⟨⟨encoded _, ?_⟩, by decide⟩
      split
      · simp
      · rw [List.forall_mem_cons]
        exact ⟨by decide, encoded _⟩
    · simp
  rw [Authority.text, List.forall_mem_append, List.forall_mem_append]
  exact ⟨⟨info, hostOf_open host after _ readHost⟩, port_open authority.port⟩

/-- A path is written without a question mark and a number sign. -/
theorem readPath_open (path : List Char) :
    ∀ c ∈ (Url.readPath .web path).text, (!Url.endsPath c) = true := by
  have segments (text : List Char) :
      ∀ c ∈ (UrlPath.rooted (UrlPath.readSegments .web text)).text, (!Url.endsPath c) = true := by
    intro c present
    obtain ⟨segment, member, inside⟩ := List.mem_flatMap.mp present
    rcases List.mem_cons.mp inside with rfl | inside
    · decide
    · rcases UrlPath.mem_addSegments segment _ [] member with nothing | written | rfl
      · cases nothing
      · obtain ⟨part, _, rfl⟩ := List.mem_map.mp written
        exact encoded_open keptInPath Url.kept_open part c inside
      · cases inside
  cases path with
  | nil => simp [Url.readPath, UrlPath.text, SchemeKind.isKnown, Url.endsPath]
  | cons c rest =>
      rw [Url.readPath]
      exact segments _

-- Links

/-- The pair that tells how many seats are bought, if it is more than one. -/
def seatsPair : Option UInt32 → List (String × String)
  | some seats => if 1 < seats then [("quantity", toString seats.toNat)] else []
  | none => []

def linkPairs (priceId userId email : String) (quantity : Option UInt32) :
    List (String × String) :=
  [("pricingSystemId", priceId), ("userId", userId), ("customerEmail", email)] ++
    seatsPair quantity

theorem ofQuantity_seats (quantity : Option UInt32) :
    Client.ofQuantity quantity = seatsPair quantity := by
  cases quantity with
  | none => rfl
  | some seats =>
      rw [Client.ofQuantity, seatsPair, Option.filter]
      by_cases several : 1 < seats
      · rw [if_pos several, if_pos (decide_eq_true several)]
        rfl
      · rw [if_neg several, if_neg (by simpa using several)]
        rfl

theorem decimal_inj (one other : Nat) (same : toString one = toString other) : one = other := by
  rw [Nat.toString_eq_ofList_toDigits, Nat.toString_eq_ofList_toDigits] at same
  have digits := String.ofList_injective same
  rw [← Nat.ofDigitChars_ten_toDigits (n := one), digits, Nat.ofDigitChars_ten_toDigits]

theorem seatsPair_same (quantity other : Option UInt32) :
    seatsPair quantity = seatsPair other ↔ quantity.filter (1 < ·) = other.filter (1 < ·) := by
  rw [← ofQuantity_seats, ← ofQuantity_seats, Client.ofQuantity, Client.ofQuantity]
  cases quantity.filter (1 < ·) with
  | none => cases other.filter (1 < ·) <;> simp
  | some seats =>
      cases other.filter (1 < ·) with
      | none => simp
      | some places =>
          refine ⟨fun same => ?_, fun same => by rw [same]⟩
          have texts := congrArg Prod.snd (List.singleton_inj.mp same)
          exact congrArg some (UInt32.toNat_inj.mp (decimal_inj _ _ texts))

theorem linkPairs_same (priceId userId email otherId otherUser otherEmail : String)
    (quantity other : Option UInt32) :
    linkPairs priceId userId email quantity = linkPairs otherId otherUser otherEmail other ↔
      (priceId = otherId ∧ userId = otherUser ∧ email = otherEmail) ∧
        quantity.filter (1 < ·) = other.filter (1 < ·) := by
  simp [linkPairs, seatsPair_same, and_assoc]

theorem carried_open (scheme : List Char)
    (carried : Client.carriedSchemes.contains scheme = true) :
    ∀ c ∈ scheme, (!Url.endsPath c) = true := by
  have each : ∀ scheme ∈ Client.carriedSchemes, scheme.all (!Url.endsPath ·) = true := by decide
  exact List.all_eq_true.mp (each scheme (List.contains_iff_mem.mp carried))

/-- A URL with a host and without query and fragment is written with its pairs behind its first
question mark. -/
theorem withPairs_text (scheme place more : List Char) (url : Url)
    (carried : Client.carriedSchemes.contains scheme = true)
    (found : Url.readPlace scheme place more = .ok url) (noQuery : url.query = none)
    (noFragment : url.fragment = none) :
    ∃ front, (∀ c ∈ front, (!Url.endsPath c) = true) ∧ ∀ pairs, pairs ≠ [] →
      (url.withPairs pairs).text = String.ofList (front ++ '?' :: Form.write pairs) := by
  obtain ⟨authority, behind, readHost, rfl⟩ := (Url.readPlace_ok ..).mp found
  have host := authority_open scheme place (carried_web scheme carried) authority behind readHost
  generalize built : Url.build scheme (some authority) (Url.readPath .web) (behind ++ more) = url
    at *
  have parts : url.scheme = scheme ∧ url.authority = some authority ∧
      ∀ c ∈ url.path.text, (!Url.endsPath c) = true := by
    rw [← built]
    exact ⟨rfl, rfl, readPath_open _⟩
  obtain ⟨sameScheme, sameAuthority, path⟩ := parts
  refine ⟨scheme ++ ':' :: '/' :: '/' :: (authority.text ++ url.path.text), ?_,
    fun pairs some => ?_⟩
  · simp only [List.forall_mem_append, List.forall_mem_cons]
    exact ⟨carried_open scheme carried, by decide, by decide, by decide, host, path⟩
  · have written : Form.append [] pairs = Form.write pairs := by
      cases pairs with
      | nil => exact absurd rfl some
      | cons pair rest => rfl
    have guardless : (url.withPairs pairs).guard = [] := by
      simp [Url.guard, Url.withPairs, sameAuthority]
    rw [Url.text, Url.chars, guardless]
    simp [Url.withPairs, Url.target, Url.marked, Url.authorityText, noQuery, noFragment, sameScheme,
      sameAuthority, written]

theorem write_without_hash (pairs : List (String × String)) : '#' ∉ Form.write pairs := by
  have delimits : Form.Delimits '#' := by
    unfold Form.Delimits
    decide
  intro present
  rcases (Form.mem_joinWith '&' '#' _).mp present with ⟨same, _⟩ | ⟨part, member, inside⟩
  · cases same
  · obtain ⟨pair, _, rfl⟩ := List.mem_map.mp member
    have clean (text : String) := Form.writeText_without '#' text delimits (by decide)
    simp [Form.writePair, clean] at inside

theorem blank_open (c : Char) (blank : Url.isOuterBlank c = true) : (!Url.endsPath c) = true := by
  have question := blank_other c '?' blank (by decide)
  have hash := blank_other c '#' blank (by decide)
  simp [Url.endsPath, question, hash]

/-- The address of the page has neither query nor fragment if the base has none: none begins in the
place that the base names, nor in what is trimmed off its end. -/
theorem page_read (base : Url) (place gap : List Char)
    (carried : Client.carriedSchemes.contains base.scheme = true) (noQuery : base.query = none)
    (noFragment : base.fragment = none) (count : Nat)
    (short : Url.readPlace base.scheme place (List.replicate count '/') = .ok base)
    (blank : ∀ c ∈ gap, Url.isOuterBlank c = true) (host : Authority) (behind : List Char)
    (found : Authority.read base.scheme (place ++ gap) = .ok (host, behind)) :
    ∃ url, Url.readPlace base.scheme (place ++ gap) ('/' :: Url.endTrimmed
        (Client.withoutStartSlashes Client.checkoutPath).toList) = .ok url ∧
      url.query = none ∧ url.fragment = none := by
  have web := carried_web base.scheme carried
  obtain ⟨authority, front, readHost, built⟩ := (Url.readPlace_ok ..).mp short
  have placeOnly : ∀ c ∈ place, (!Url.endsPath c) = true := by
    have whole := (Url.build_bare base.scheme (some authority) (Url.readPath .web)
      (front ++ List.replicate count '/')).mpr (by rw [built]; exact ⟨noQuery, noFragment⟩)
    exact read_open base.scheme place web authority front readHost
      (List.forall_mem_append.mp whole).1
  have longerOnly : ∀ c ∈ place ++ gap, (!Url.endsPath c) = true :=
    List.forall_mem_append.mpr ⟨placeOnly, fun c present => blank_open c (blank c present)⟩
  obtain ⟨inside, _⟩ := Authority.read_found base.scheme _ web host behind found
  have pathOnly : ('/' :: Url.endTrimmed
      (Client.withoutStartSlashes Client.checkoutPath).toList).all (!Url.endsPath ·) = true := by
    decide
  refine ⟨_, (Url.readPlace_ok ..).mpr ⟨host, behind, found, rfl⟩, ?_⟩
  rw [← Url.build_bare, List.forall_mem_append]
  exact ⟨fun c present => longerOnly c (inside.subset present), List.all_eq_true.mp pathOnly⟩

/-- Links are made of one text for all arguments, a question mark and the pairs. -/
theorem links_written (settings : ClientSettings) (client : Client)
    (made : Client.ofSettings settings = .ok client) (base : Url)
    (readBase : Url.read settings.baseUrl = .ok base)
    (carried : Client.carriedSchemes.contains base.scheme = true) (noQuery : base.query = none)
    (noFragment : base.fragment = none) (ground : Url)
    (readGround : Url.read (client.baseUrl ++ "/") = .ok ground) :
    ∃ front, (∀ c ∈ front, (!Url.endsPath c) = true) ∧ ∀ priceId userId email quantity,
      client.checkoutUrl priceId userId email quantity =
        .ok (String.ofList (front ++ '?' :: Form.write (linkPairs priceId userId email quantity)))
          := by
  obtain ⟨place, gap, count, short, blank, _, addresses⟩ :=
    client.addresses_read settings made base readBase carried
  rw [addresses _ [] (by simp), Url.readPlace_ok] at readGround
  obtain ⟨host, behind, readHost, _⟩ := readGround
  obtain ⟨url, found, unasked, unmarked⟩ :=
    page_read base place gap carried noQuery noFragment count short blank host behind readHost
  obtain ⟨front, frontOnly, texts⟩ :=
    withPairs_text base.scheme _ _ url carried found unasked unmarked
  refine ⟨front, frontOnly, fun priceId userId email quantity => ?_⟩
  have read := addresses (client.address Client.checkoutPath) _ (by simp [Client.address]; rfl)
  rw [Client.checkoutUrl, read, found, ofQuantity_seats]
  exact congrArg Except.ok (texts _ (List.cons_ne_nil _ _))

structure Client.LinksSay (settings : ClientSettings) (client : Client) : Prop where
  /-- The base with a slash behind it is a URL, unless the base ends in a blank. -/
  visible : (∀ last, settings.baseUrl.toList.getLast? = some last → Url.isOuterBlank last = false) →
    ∃ url, Url.read (client.baseUrl ++ "/") = .ok url
  /-- Then the arguments are in the query and nowhere else. -/
  made : ∀ url, Url.read (client.baseUrl ++ "/") = .ok url → ∃ front : List Char, '?' ∉ front ∧
    ∀ priceId userId email quantity, ∃ query,
      client.checkoutUrl priceId userId email quantity =
        .ok (String.ofList (front ++ '?' :: query)) ∧
      '#' ∉ front ++ '?' :: query ∧ Form.read query = linkPairs priceId userId email quantity
  same : ∀ url, Url.read (client.baseUrl ++ "/") = .ok url →
    ∀ priceId userId email quantity otherId otherUser otherEmail other,
      client.checkoutUrl priceId userId email quantity =
          client.checkoutUrl otherId otherUser otherEmail other ↔
        (priceId = otherId ∧ userId = otherUser ∧ email = otherEmail) ∧
          quantity.filter (1 < ·) = other.filter (1 < ·)
  refused : ∀ fault, Url.read (client.baseUrl ++ "/") = .error fault →
    ∀ priceId userId email quantity,
      client.checkoutUrl priceId userId email quantity = .error (.invalidUrl fault.message)

/-- For a base with neither query nor fragment all links are made if the base, with a slash behind
it, is a URL; otherwise none is. -/
theorem checkout_links (settings : ClientSettings) (client : Client)
    (made : Client.ofSettings settings = .ok client) (base : Url)
    (readBase : Url.read settings.baseUrl = .ok base)
    (carried : Client.carriedSchemes.contains base.scheme = true) (noQuery : base.query = none)
    (noFragment : base.fragment = none) : Client.LinksSay settings client := by
  have written := links_written settings client made base readBase carried noQuery noFragment
  obtain ⟨place, gap, count, short, _, visible, addresses⟩ :=
    client.addresses_read settings made base readBase carried
  have ground := addresses (client.baseUrl ++ "/") [] (by simp)
  constructor
  case visible =>
    intro ending
    obtain rfl := visible ending
    obtain ⟨authority, front, readHost, _⟩ := (Url.readPlace_ok ..).mp short
    rw [List.append_nil] at ground
    exact ⟨_, ground.trans ((Url.readPlace_ok ..).mpr ⟨authority, front, readHost, rfl⟩)⟩
  case made =>
    intro url readGround
    obtain ⟨front, frontOnly, links⟩ := written url readGround
    have unasked : '?' ∉ front := fun present => absurd (frontOnly _ present) (by decide)
    refine ⟨front, unasked, fun priceId userId email quantity =>
      ⟨_, links priceId userId email quantity, ?_, Form.read_write _⟩⟩
    intro present
    rcases List.mem_append.mp present with inside | behind
    · exact absurd (frontOnly _ inside) (by decide)
    · rcases List.mem_cons.mp behind with same | inQuery
      · cases same
      · exact write_without_hash _ inQuery
  case same =>
    intro url readGround priceId userId email quantity otherId otherUser otherEmail other
    obtain ⟨front, _, links⟩ := written url readGround
    rw [links, links, ← linkPairs_same]
    constructor
    · intro same
      have texts := String.ofList_injective (Except.ok.inj same)
      have queries := List.cons.inj (List.append_cancel_left texts)
      have read := congrArg Form.read queries.2
      rwa [Form.read_write, Form.read_write] at read
    · intro same
      rw [same]
  case refused =>
    intro fault readGround priceId userId email quantity
    rw [ground] at readGround
    have read := addresses (client.address Client.checkoutPath)
      (Client.withoutStartSlashes Client.checkoutPath).toList (by simp [Client.address])
    have failed : Url.read (client.address Client.checkoutPath) = .error fault := by
      rw [read, Url.readPlace]
      rw [Url.readPlace] at readGround
      cases place : Authority.read base.scheme (place ++ gap) with
      | error other =>
          rw [place] at readGround
          cases readGround
          rfl
      | ok found =>
          rw [place] at readGround
          cases readGround
    rw [Client.checkoutUrl, failed]

theorem api_links :
    Client.ofSettings apiSettings = .ok ⟨"http://[::1]/api", .mobile⟩ ∧
      Url.read apiSettings.baseUrl = .ok (pathBase ["api".toList, [], []]) ∧
      Client.carriedSchemes.contains (pathBase ["api".toList, [], []]).scheme = true ∧
      (pathBase ["api".toList, [], []]).query = none ∧
      (pathBase ["api".toList, [], []]).fragment = none ∧
      Client.LinksSay apiSettings ⟨"http://[::1]/api", .mobile⟩ ∧
      (Client.checkoutUrl ⟨"http://[::1]/api", .mobile⟩ "p&q#" "a b" "é+" (some 2)).toOption =
        some ("http://[::1]/api/subscription-v2/action/redirect-to-checkout-v2" ++
          "?pricingSystemId=p%26q%23&userId=a+b&customerEmail=%C3%A9%2B&quantity=2") :=
  ⟨rfl, rfl, rfl, rfl, rfl, checkout_links apiSettings _ rfl _ rfl rfl rfl rfl, by decide +kernel⟩

/-- A base that is read alone when a client is made, and with a path behind it when it makes a link:
there is a client and no link. The control character is trimmed only at the end of the whole, so it
is part of the host when a path follows. -/
theorem control_base_linkless :
    Client.ofSettings (.ofBaseUrl "http://[::1]\x01") = .ok ⟨"http://[::1]\x01", .desktop⟩ ∧
      Url.read "http://[::1]\x01" = .ok (pathBase [[]]) ∧
      Client.carriedSchemes.contains (pathBase [[]]).scheme = true ∧
      (pathBase [[]]).query = none ∧ (pathBase [[]]).fragment = none ∧
      "http://[::1]\x01".toList.all (fun c => !c.isWhitespace) = true ∧
      ∀ priceId userId email quantity,
        Client.checkoutUrl ⟨"http://[::1]\x01", .desktop⟩ priceId userId email quantity =
          .error (.invalidUrl "invalid IPv6 address") :=
  ⟨rfl, rfl, rfl, rfl, rfl, by decide, fun _ _ _ _ => rfl⟩

end Entitlement
