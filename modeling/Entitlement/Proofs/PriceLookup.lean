import Entitlement.Proofs.FaithfulRequests

/-!
The lookup of one price. Its id stands in the path as it was given, so a delimiter in it ends the
path, a dot segment leads elsewhere, and an escape is read as another character. The lookup asks for
its id if and only if the id holds none of these. One direction follows the id through the reading
of the address; the other counts bytes: on its way an id can only get shorter, and one that is read
back whole has lost nothing.
-/

namespace Entitlement

open Text UrlPath

def priceList : List Char := "subscription-plan-pricing-system".toList

def priceAsk (priceId : String) : Ask := .get ("/subscription-plan-pricing-system/" ++ priceId) []

/-- A URL that asks for one price and nothing else. -/
structure LooksUp (base : Url) (priceId : String) (url : Url) : Prop where
  noQuery : url.query = none
  path : ∃ segment, url.path.text = base.path.stem ++ '/' :: priceList ++ '/' :: segment ∧
    '/' ∉ segment ∧ percentDecode segment = bytes priceId

/-- An id that can stand in a path: it has no delimiters, no line breaks and no blank at its end, is
no dot segment, and no part of it reads as an escape. -/
structure Addressable (priceId : List Char) : Prop where
  delimiterless : ∀ c ∈ priceId, SchemeKind.web.isSlash c = false ∧ Url.endsPath c = false
  unbroken : ∀ c ∈ priceId, Url.isBreak c = false
  visible : ∀ c, priceId.getLast? = some c → Url.isOuterBlank c = false
  undotted : priceId ≠ ['.'] ∧ priceId ≠ ['.', '.']
  escapeFree : EscapeFree priceId

theorem addressable_iff (priceId : List Char) :
    Addressable priceId ↔
      priceId.all (fun c => !SchemeKind.web.isSlash c && !Url.endsPath c && !Url.isBreak c) = true ∧
        priceId.getLast?.all (!Url.isOuterBlank ·) = true ∧
        (priceId ≠ ['.'] ∧ priceId ≠ ['.', '.']) ∧ percentDecode priceId = bytesOf priceId := by
  rw [decode_same_iff, List.all_eq_true]
  constructor
  · rintro ⟨delimiterless, unbroken, visible, undotted, free⟩
    refine ⟨fun c present => ?_, ?_, undotted, free⟩
    · simp [delimiterless c present, unbroken c present]
    · cases ends : priceId.getLast? with
      | none => rfl
      | some c => simp [visible c ends]
  · rintro ⟨plain, visible, undotted, free⟩
    refine ⟨fun c present => ?_, fun c present => ?_, fun c ends => ?_, undotted, free⟩
    · have held := plain c present
      simp only [Bool.and_eq_true, Bool.not_eq_true'] at held
      exact held.1
    · have held := plain c present
      simp only [Bool.and_eq_true, Bool.not_eq_true'] at held
      exact held.2
    · rw [ends] at visible
      simpa using visible

instance (priceId : List Char) : Decidable (Addressable priceId) :=
  decidable_of_iff' _ (addressable_iff priceId)

-- The lookup

def pathPart (priceId : List Char) : List Char :=
  (Url.endTrimmed priceId).takeWhile (!Url.endsPath ·)

theorem price_tail (priceId : String) :
    (Client.withoutStartSlashes (priceAsk priceId).path).toList =
      priceList ++ '/' :: priceId.toList := by
  have written : (priceAsk priceId).path.toList = '/' :: (priceList ++ '/' :: priceId.toList) := by
    rw [priceAsk, Ask.get, String.toList_append]
    rfl
  rw [Client.withoutStartSlashes, String.toList_ofList, written]
  rfl

/-- Where a lookup goes: the path continues with the part of the id that belongs to it. -/
theorem below_price (base : Url) (before : List (List Char)) (priceId : List Char) :
    (base.below before (Url.endTrimmed (priceList ++ '/' :: priceId))).path =
        .rooted (addSegments .web (priceList :: before)
          (segmentsOf (pathPart priceId))) ∧
      (base.below before (Url.endTrimmed (priceList ++ '/' :: priceId))).query =
        (Url.readTail .web ((Url.endTrimmed priceId).dropWhile (!Url.endsPath ·))).1 := by
  have trimmed : Url.endTrimmed (priceList ++ '/' :: priceId) =
      priceList ++ ['/'] ++ Url.endTrimmed priceId := by
    rw [← List.append_cons]
    exact Url.endTrimmed_behind priceList priceId '/' (by decide)
  have stays : ∀ c ∈ priceList ++ ['/'], (!Url.endsPath c) = true :=
    List.all_eq_true.mp (by decide)
  have single : segmentsOf priceList = [priceList] := by decide
  rw [trimmed, Url.below, List.takeWhile_append_of_pos stays, List.dropWhile_append_of_pos stays,
    ← List.append_cons, segmentsOf_slash, single, List.singleton_append,
    addSegments_more _ _ _ (segmentsOf_some _),
    afterSegment_plain _ _ (by decide)]
  exact ⟨rfl, rfl⟩

theorem pathPart_addressable (priceId : List Char) (free : Addressable priceId) :
    pathPart priceId = priceId ∧
      (Url.endTrimmed priceId).dropWhile (!Url.endsPath ·) = [] := by
  have stays : ∀ c ∈ priceId, (!Url.endsPath c) = true := by
    intro c present
    rw [(free.delimiterless c present).2]
    rfl
  rw [pathPart, (Url.endTrimmed_same priceId).mpr ⟨free.unbroken, free.visible⟩]
  exact ⟨List.takeWhile_eq_self_iff.mpr stays, List.dropWhile_eq_nil_iff.mpr stays⟩

/-- An id that is read back as the last segment of its path has lost nothing on the way. -/
theorem addressable_read (priceId written : List Char)
    (ends : written <:+ slashed (pathPart priceId)) (clean : '/' ∉ written)
    (plain : isDot (percentEncode keptInPath written) = false)
    (read : percentDecode written = bytesOf priceId) : Addressable priceId := by
  have inTrimmed : (pathPart priceId).Sublist (Url.endTrimmed priceId) :=
    List.takeWhile_sublist _
  have inPath := bytesOf_sublist _ _ ends.sublist
  have inId := bytesOf_sublist _ _ (inTrimmed.trans (Url.endTrimmed_sublist priceId))
  have inside := decode_length written
  rw [slashed_bytes] at inPath
  rw [read] at inside
  have whole : pathPart priceId = priceId := inId.2 (by omega)
  have all : written = slashed priceId := whole ▸ inPath.2 (by omega)
  have trimmed : Url.endTrimmed priceId = priceId :=
    (Url.endTrimmed_sublist priceId).antisymm (by rwa [whole] at inTrimmed)
  have slashless := slashless_slashed priceId (all ▸ clean)
  have stays : ∀ c ∈ priceId, (!Url.endsPath c) = true := by
    rw [pathPart, trimmed] at whole
    exact List.takeWhile_eq_self_iff.mp whole
  rw [slashless_same priceId slashless] at all
  subst all
  obtain ⟨unbroken, visible⟩ := (Url.endTrimmed_same written).mp trimmed
  refine ⟨fun c present => ⟨slashless c present, ?_⟩, unbroken, visible, ⟨?_, ?_⟩,
    inside.2 rfl⟩
  · simpa using stays c present
  · rintro rfl
    revert plain
    decide
  · rintro rfl
    revert plain
    decide

/-- The URL of a lookup, with the segments of its base, the last one first. -/
structure LookupUrl (base : Url) (priceId : String) (url : Url) : Prop where
  host : url.host? = base.host?
  path : ∃ before, base.path.stem = (rooted before.reverse).text ∧
    url.path = .rooted (addSegments .web (priceList :: before)
      (segmentsOf (pathPart priceId.toList)))
  query : (Url.endTrimmed priceId.toList).dropWhile (!Url.endsPath ·) = [] → url.query = none

theorem looksUp_iff (base url : Url) (priceId : String) (filled : priceId ≠ "")
    (located : LookupUrl base priceId url) :
    LooksUp base priceId url ↔ Addressable priceId.toList := by
  obtain ⟨before, stem, path⟩ := located.path
  constructor
  · rintro ⟨_, segment, text, clean, read⟩
    obtain ⟨front, last, added, slashless, ends⟩ :=
      addSegments_final (priceList :: before) (pathPart priceId.toList)
    have final : (rooted (front ++ [last])).text =
        (rooted front).text ++ '/' :: last := by
      rw [text_append]
      simp [UrlPath.text]
    rw [path, added, final] at text
    obtain rfl := Form.behind_last '/' _ _ _ _ slashless clean text
    rcases ends with rfl | ⟨written, rfl, ends, noSlash, plain⟩
    · exact absurd (String.toList_inj.mp (bytesOf_inj [] priceId.toList read).symm) filled
    · rw [segment_decoded] at read
      exact addressable_read priceId.toList written ends noSlash plain read
  · intro free
    obtain ⟨whole, nothing⟩ := pathPart_addressable priceId.toList free
    have slashless := fun c present => (free.delimiterless c present).1
    have plain := undotted_written priceId.toList free.escapeFree free.undotted
    refine ⟨located.query nothing, percentEncode keptInPath priceId.toList, ?_, ?_, ?_⟩
    · rw [path, whole, segmentsOf_slashless _ slashless, addSegments_last, plain,
        if_neg Bool.false_ne_true, afterSegment_plain _ _ plain, List.reverse_cons,
        List.reverse_cons, text_append, text_append, ← stem]
      simp [UrlPath.text]
    · refine slashless_written _ fun present => ?_
      have slash := slashless '/' present
      cases slash
    · rw [segment_decoded]
      exact decode_free _ free.escapeFree

/-- A URL that looks a price up says which one. -/
theorem looksUp_inj (base url : Url) (one other : String) (first : LooksUp base one url)
    (second : LooksUp base other url) : one = other := by
  obtain ⟨_, segment, path, clean, read⟩ := first
  obtain ⟨_, again, same, cleanAgain, readAgain⟩ := second
  rw [path] at same
  obtain rfl := Form.behind_last '/' _ _ _ _ clean cleanAgain same
  exact String.toList_inj.mp (bytesOf_inj _ _ (read.symm.trans readAgain))

/-- It is no URL of another endpoint. -/
theorem looksUp_elsewhere (base url : Url) (priceId : String) (looks : LooksUp base priceId url)
    (endpoint : String) (known : endpoint ∈ endpoints) :
    url.path.text ≠ base.path.stem ++ '/' :: endpoint.toList := by
  obtain ⟨_, segment, path, _⟩ := looks
  have other : ∀ endpoint ∈ endpoints, ¬ priceList ++ ['/'] <+: endpoint.toList := by decide
  intro same
  rw [path, List.append_assoc] at same
  have tail : priceList ++ '/' :: segment = endpoint.toList :=
    List.tail_eq_of_cons_eq (List.append_cancel_left same)
  refine other endpoint known ⟨segment, ?_⟩
  rw [← tail, ← List.append_cons]

theorem price_url {text : String} {base : Url} (plain : EndpointBase text base) (client : Client)
    (based : client.baseUrl = text) (priceId : String) :
    ∃ url, client.urlOf (priceAsk priceId) = .ok url ∧
      url.ownAuthorizations = base.ownAuthorizations ∧ LookupUrl base priceId url.shown := by
  obtain ⟨before, stem, found⟩ := plain.urlOf_below client based
  obtain ⟨path, query⟩ := below_price base before priceId.toList
  refine ⟨_, found (priceAsk priceId), ?own, ⟨?host, ⟨before, stem, ?path⟩, fun nothing => ?query⟩⟩
  case own =>
    rw [Url.ownAuthorizations, Url.asked_authority, Url.below_authority]
    rfl
  case host => rw [Url.shown_host, Url.host?, Url.asked_authority, Url.below_authority, Url.host?]
  case path =>
    rw [Url.shown_path, price_tail]
    exact path
  case query =>
    rw [Url.shown_query, price_tail, priceAsk, Ask.get,
      asked_query _ (by rw [query, nothing]; rfl)]
    rfl

/-- What is sent for a lookup: its URL, unless requests cannot name the host or that is too long. -/
theorem price_sent (client : Client) (priceId : String) (url : Url)
    (located : client.urlOf (priceAsk priceId) = .ok url) (provider : Provider)
    (network : Network) (log : Log) :
    ((Call.price priceId).run client provider network log).2.sent = log.sent ++
      if Client.carriesHost url.shown = true ∧
          url.shown.chars.length ≤ Client.longestAddress then
        [⟨.get, url.shown, url.ownAuthorizations, none⟩] else [] := by
  have builds := request_iff client (priceAsk priceId) url located none
  have sent := congrArg Log.sent (startShape_log client provider network
    ((Call.price priceId).shape client.platform) log)
  refine sent.trans (congrArg (log.sent ++ ·) ?_)
  change Attempt.requests [⟨none, client.request (priceAsk priceId) none⟩] = _
  rw [Option.toList_none, List.append_nil] at builds
  cases made : client.request (priceAsk priceId) none with
  | ok request =>
      obtain ⟨sameUrl, method, body, authorizations, _, fits⟩ := (builds request).mp made
      rw [sameUrl] at fits
      rw [if_pos fits, ← sameUrl, ← authorizations]
      cases request
      cases method
      cases body
      rfl
  | error failure =>
      rw [if_neg]
      · rfl
      · intro fits
        have built := (builds ⟨.get, url.shown, url.ownAuthorizations, none⟩).mpr
          ⟨rfl, rfl, rfl, rfl, rfl, fits⟩
        rw [made] at built
        cases built

/-- A lookup sends one request, and this asks for the price it is given if and only if the id can
stand in a path. Among such ids each has a request of its own, which is none of another endpoint. -/
theorem price_lookup_exact (text : String) (base : Url) (plain : EndpointBase text base)
    (settings : ClientSettings) (slashes : Nat)
    (given : settings.baseUrl = text ++ String.ofList (List.replicate slashes '/')) :
    ∃ client, Client.ofSettings settings = .ok client ∧ ∃ urlOf : String → Url,
      (∀ priceId provider network log,
        ((Call.price priceId).run client provider network log).2.sent = log.sent ++
          if Client.carriesHost base = true ∧
              (urlOf priceId).chars.length ≤ Client.longestAddress then
            [⟨.get, urlOf priceId, base.ownAuthorizations, none⟩] else []) ∧
      (∀ priceId, priceId ≠ "" →
        (LooksUp base priceId (urlOf priceId) ↔ Addressable priceId.toList)) ∧
      (∀ priceId, priceId ≠ "" → Addressable priceId.toList →
        (∀ endpoint ∈ endpoints,
          (urlOf priceId).path.text ≠ base.path.stem ++ '/' :: endpoint.toList) ∧
        ∀ other, other ≠ "" → Addressable other.toList → urlOf other = urlOf priceId →
          other = priceId) := by
  refine ⟨⟨text, settings.platform⟩, plain.made settings slashes given, ?_⟩
  choose urlOf located own lookup using price_url plain ⟨text, settings.platform⟩ rfl
  have looks := fun priceId filled => looksUp_iff base _ priceId filled (lookup priceId)
  refine ⟨fun priceId => (urlOf priceId).shown, fun priceId provider network log => ?sent, looks,
    fun priceId filled free => ⟨?elsewhere, fun other some freeOther same => ?apart⟩⟩
  case sent =>
    rw [← own priceId, ← carriesHost_congr _ _ (lookup priceId).host]
    exact price_sent _ priceId _ (located priceId) provider network log
  case elsewhere => exact looksUp_elsewhere base _ priceId ((looks priceId filled).mpr free)
  case apart =>
    have first := (looks other some).mpr freeOther
    dsimp only at same
    rw [same] at first
    exact looksUp_inj base _ other priceId first ((looks priceId filled).mpr free)

theorem sale_price_looked_up :
    EndpointBase "http://[::1]/api" apiBase ∧ Addressable "50% été".toList ∧
      ∃ request, ((Call.price "50% été").run ⟨"http://[::1]/api", .mobile⟩
          (BearerToken.provider ⟨"token"⟩) unreached .start).2.sent = [request] ∧
        LooksUp apiBase "50% été" request.url ∧
        request.target = "/api/subscription-plan-pricing-system/50%%20%C3%A9t%C3%A9" := by
  have plain : EndpointBase "http://[::1]/api" apiBase :=
    ⟨rfl, rfl, rfl, rfl, by rintro _ ⟨⟩; decide⟩
  have free : Addressable "50% été".toList := by decide +kernel
  obtain ⟨client, made, urlOf, sends, looks, _⟩ :=
    price_lookup_exact _ apiBase plain apiSettings 2 (by decide)
  obtain rfl : ⟨"http://[::1]/api", .mobile⟩ = client := Except.ok.inj made
  have sent := sends "50% été" (BearerToken.provider ⟨"token"⟩) unreached .start
  have targets : ((Call.price "50% été").run ⟨"http://[::1]/api", .mobile⟩
      (BearerToken.provider ⟨"token"⟩) unreached .start).2.sent.map Request.target =
      ["/api/subscription-plan-pricing-system/50%%20%C3%A9t%C3%A9"] := by decide +kernel
  rw [sent] at targets
  split at sent
  · next fits =>
      rw [if_pos fits] at targets
      exact ⟨plain, free, _, sent, (looks _ (by decide)).mpr free, List.singleton_inj.mp targets⟩
  · next unfit =>
      rw [if_neg unfit] at targets
      cases targets

def lookupUrls (priceId : String) : List Url :=
  ((Call.price priceId).run localClient (BearerToken.provider ⟨"token"⟩) unreached
    .start).2.sent.map (·.url)

def limitsUrl : Url := { localBase with path := .rooted ["limits".toList] }

/-- An id with dots is asked of another endpoint, and one with a delimiter is taken for another. -/
theorem price_lookup_misled :
    EndpointBase "http://[::1]" localBase ∧
      (lookupUrls "../limits" = [limitsUrl] ∧ "limits" ∈ endpoints ∧
        limitsUrl.path.text = localBase.path.stem ++ '/' :: "limits".toList ∧
        ¬ LooksUp localBase "../limits" limitsUrl) ∧
      ((lookupUrls "a").length = 1 ∧ lookupUrls "a?" = lookupUrls "a") := by
  have plain : EndpointBase "http://[::1]" localBase :=
    ⟨rfl, rfl, rfl, rfl, by rintro _ ⟨⟩; decide⟩
  have misled : ¬ LooksUp localBase "../limits" limitsUrl := fun looks =>
    looksUp_elsewhere localBase limitsUrl "../limits" looks "limits" (by decide) (by decide)
  exact ⟨plain, ⟨by decide +kernel, by decide, by decide, misled⟩, by decide +kernel,
    by decide +kernel⟩

end Entitlement
