import Mathlib.Data.List.DropRight
import Entitlement.Proofs.FaithfulRequests
import Entitlement.Service.Checkout

/-!
Which bases serve their endpoints. A base is read alone when a client is made for it, but a request
is sent to its text with a slash and a path behind it. Both readings take the same text for the name
of the host, and behind it a path only adds segments; so one more reading, of the text with a slash
behind it, decides for all endpoints at once.
-/

namespace Entitlement

open Text

-- Slashes at the end

theorem withoutSlashes_more (text : List Char) (count : Nat) :
    (text ++ List.replicate count '/').rdropWhile (· == '/') = text.rdropWhile (· == '/') := by
  induction count with
  | zero => simp
  | succ count ih =>
      rw [List.replicate_succ', ← List.append_assoc,
        List.rdropWhile_concat_pos _ _ _ (by decide), ih]

/-- A text ends in no slash if and only if one slash more does not make two at its end. -/
theorem withoutSlashes_same (text : List Char) :
    text.rdropWhile (· == '/') = text ↔ ¬ ['/', '/'] <:+ text ++ ['/'] := by
  rcases List.eq_nil_or_concat' text with rfl | ⟨front, last, rfl⟩
  · exact iff_of_true rfl (by decide)
  rw [List.rdropWhile_eq_self_iff]
  simp only [List.getLast_append_singleton, beq_iff_eq]
  constructor
  · rintro other ⟨start, same⟩
    have longer : start ++ ['/'] ++ ['/'] = front ++ [last] ++ ['/'] := by simpa using same
    have before := List.append_cancel_right longer
    have ends := congrArg List.getLast? before
    rw [List.getLast?_concat, List.getLast?_concat] at ends
    exact other (by simp) (Option.some.inj ends).symm
  · rintro single _ rfl
    exact single ⟨front, by simp⟩

namespace Url

open UrlPath

/-- A path is what it leaves to further segments, perhaps with a slash behind it. -/
theorem readPath_text (path : List Char) : ∃ slashes, (readPath .web path).text =
    (rooted (segmentsBefore path).reverse).text ++ List.replicate slashes '/' := by
  cases path with
  | nil => exact ⟨1, rfl⟩
  | cons c rest =>
      rw [readPath, segmentsBefore]
      generalize (if SchemeKind.web.isSlash c then rest else c :: rest) = text
      obtain ⟨front, last, split⟩ :=
        (List.eq_nil_or_concat' (segmentsOf text)).resolve_left (segmentsOf_some text)
      have segments : readSegments .web text = addSegments .web [] (segmentsOf text) := rfl
      rw [segments, split, addSegments_append _ _ _ (List.cons_ne_nil _ _), addSegments_last,
        List.foldl_append, List.foldl_cons, List.foldl_nil]
      cases isDot last with
      | true => exact ⟨1, text_append _ [[]]⟩
      | false => exact ⟨0, (List.append_nil _).symm⟩

theorem slashes_written (count : Nat) : Written (List.replicate count '/') := by
  constructor
  case kept =>
    intro c present
    obtain rfl := List.eq_of_mem_replicate present
    decide
  case undotted =>
    induction count with
    | zero => decide
    | succ count ih =>
        intro segment present
        have first := segmentsOf_slash [] (List.replicate count '/')
        rw [List.nil_append] at first
        rw [List.replicate_succ, first] at present
        rcases List.mem_append.mp present with empty | later
        · obtain rfl := List.mem_singleton.mp empty
          decide
        · exact ih segment later

/-- Slashes behind a path stay behind what it leaves to further segments. -/
theorem readPath_slashes (path : List Char) (count : Nat) :
    (readPath .web (path ++ List.replicate count '/')).bare =
      (rooted (segmentsBefore path).reverse).text.rdropWhile (· == '/') := by
  change (readPath .web _).text.rdropWhile (· == '/') = _
  cases count with
  | zero =>
      obtain ⟨slashes, written⟩ := readPath_text path
      rw [List.replicate_zero, List.append_nil, written, withoutSlashes_more]
  | succ count =>
      have plain := slashes_written count
      rw [List.replicate_succ, readPath_slash, addSegments_undotted _ _ (segmentsOf_some _)
        plain.undotted, text_append, segmentsOf_written _ plain, ← List.replicate_succ,
        withoutSlashes_more]

end Url

theorem Client.given_slashes (client : Client) (settings : ClientSettings)
    (made : Client.ofSettings settings = .ok client) : ∃ count,
      settings.baseUrl.toList = client.baseUrl.toList ++ List.replicate count '/' := by
  obtain ⟨slashes, areSlashes, whole⟩ := endSlashes settings.baseUrl
  rw [← Client.base_kept settings client made, List.eq_replicate_of_mem areSlashes] at whole
  exact ⟨_, whole⟩

/-- The base of a client and the addresses of its endpoints name the same place. Blanks stand behind
it in the addresses if the base has them at its end. -/
theorem Client.addresses_read (settings : ClientSettings) (client : Client)
    (made : Client.ofSettings settings = .ok client) (base : Url)
    (readBase : Url.read settings.baseUrl = .ok base)
    (carried : Client.carriedSchemes.contains base.scheme = true) :
    ∃ place gap slashes,
      Url.readPlace base.scheme place (List.replicate slashes '/') = .ok base ∧
      (∀ c ∈ gap, Url.isOuterBlank c = true) ∧
      ((∀ last, settings.baseUrl.toList.getLast? = some last → Url.isOuterBlank last = false) →
        gap = []) ∧
      ∀ address tail, address.toList = client.baseUrl.toList ++ '/' :: tail →
        Url.read address =
          Url.readPlace base.scheme (place ++ gap) ('/' :: Url.endTrimmed tail) := by
  obtain ⟨count, whole⟩ := client.given_slashes settings made
  cases count with
  | zero =>
      rw [List.replicate_zero, List.append_nil] at whole
      obtain ⟨place, gap, _, alone, blank, visible, addresses⟩ :=
        Url.read_alone settings.baseUrl base readBase carried
      rw [whole] at addresses
      exact ⟨place, gap, 0, alone, blank, visible, addresses⟩
  | succ count =>
      obtain ⟨gap, blank, _, behind⟩ := Url.trimmed_gap client.baseUrl.toList
      have kept := Url.endTrimmed_visible (List.replicate count '/') fun c present => by
        rw [List.eq_of_mem_replicate present]
        decide
      rw [Url.read] at readBase
      split at readBase
      · cases readBase
      next scheme after found =>
      obtain rfl := readScheme_scheme scheme after base readBase
      have web := carried_web _ carried
      rw [Url.readScheme, web] at readBase
      rw [whole, List.replicate_succ, behind, kept] at found
      obtain ⟨rest, rfl, others⟩ := scheme_base _ _ (.path gap _ blank) _ after found
      have named : (rest ++ gap).dropWhile (SchemeKind.web.isSlash ·) ≠ [] := by
        intro nothing
        change Url.readWeb _ _ = _ at readBase
        rw [readWeb_hostless _ _ web] at readBase
        · cases readBase
        · rw [← List.append_assoc, List.dropWhile_append, nothing, List.isEmpty_nil, if_pos rfl,
            ← List.replicate_succ]
          exact dropWhile_slashes _ fun c present => List.eq_of_mem_replicate present
      refine ⟨(rest ++ gap).dropWhile (SchemeKind.web.isSlash ·), [], count + 1, ?_,
        fun c nothing => absurd nothing List.not_mem_nil, fun _ => rfl, ?_⟩
      · rw [List.replicate_succ, ← Url.readWeb_place _ rest gap web named]
        exact readBase
      · rw [List.append_nil]
        exact Url.read_behind client.baseUrl gap _ rest behind others web named

-- Addresses below a base

def Url.place (url : Url) : Option (Option Host × Option Nat) :=
  url.authority.map fun authority => (authority.host, authority.port)

/-- A URL at the host of a base that names nothing but the path of the base, without the slashes at
its end, then one slash and a further path. -/
structure Url.IsBelow (url base : Url) (path : List Char) : Prop where
  scheme : url.scheme = base.scheme
  place : url.place = base.place
  noQuery : url.query = none
  noFragment : url.fragment = none
  path : url.path.text = base.path.bare ++ '/' :: path

def ReadsBelow (base : Url) (path : List Char) (address : String) : Prop :=
  ∃ url, Url.read address = .ok url ∧ url.IsBelow base path

/-- A text that names the host of a base, and leaves to what follows it the path of the base without
the slashes at its end. -/
def Url.HeldBy (base : Url) (place : List Char) : Prop :=
  ∃ authority behind, Authority.read base.scheme place = .ok (authority, behind) ∧
    (∀ c ∈ behind, (!endsPath c) = true) ∧ some (authority.host, authority.port) = base.place ∧
    (UrlPath.rooted (segmentsBefore behind).reverse).text = base.path.bare

/-- Behind a text and a slash a path is read below a base if and only if the text holds the base. So
it does not matter which path it is. -/
theorem readsBelow_iff (base : Url) (place path : List Char) (address : String)
    (carried : Client.carriedSchemes.contains base.scheme = true) (written : Url.Written path)
    (reads : Url.read address =
      Url.readPlace base.scheme place ('/' :: Url.endTrimmed path)) :
    ReadsBelow base path address ↔ base.HeldBy place := by
  have web := carried_web base.scheme carried
  constructor
  · rintro ⟨url, found, below⟩
    rw [reads, Url.readPlace_ok] at found
    obtain ⟨authority, behind, readHost, rfl⟩ := found
    have whole := (Url.build_bare _ _ _ _).mpr ⟨below.noQuery, below.noFragment⟩
    have pathOnly : ∀ c ∈ behind, (!Url.endsPath c) = true :=
      fun c present => whole c (List.mem_append_left _ present)
    refine ⟨authority, behind, readHost, pathOnly, below.place, ?_⟩
    have text := below.path
    rw [Url.build_below _ _ web behind _ pathOnly, Url.below_path _ _ path written] at text
    exact List.append_cancel_right text
  · rintro ⟨authority, behind, readHost, pathOnly, place, text⟩
    refine ⟨_, reads.trans ((Url.readPlace_ok ..).mpr ⟨authority, behind, readHost, rfl⟩), ?_⟩
    have segments := Url.below_segments (Url.build base.scheme (some authority)
      (Url.readPath .web) behind) (Url.segmentsBefore behind) path written
    have below := Url.below_path (Url.build base.scheme (some authority) (Url.readPath .web) behind)
      (Url.segmentsBefore behind) path written
    rw [Url.build_below _ _ web behind _ pathOnly]
    refine ⟨rfl, place, by rw [segments], by rw [segments], ?_⟩
    rw [below, text]

/-- A text that names a host and has neither a query nor a fragment does not hold their marks. -/
theorem read_open (scheme place : List Char) (web : SchemeKind.ofScheme scheme = .web)
    (authority : Authority) (behind : List Char)
    (found : Authority.read scheme place = .ok (authority, behind))
    (pathOnly : ∀ c ∈ behind, (!Url.endsPath c) = true) :
    ∀ c ∈ place, (!Url.endsPath c) = true := by
  intro c present
  by_contra ends
  have ends : Url.endsPath c = true := by simpa using ends
  have stops : SchemeKind.web.endsAuthority c = true := by
    rw [Url.endsPath] at ends
    rw [SchemeKind.endsAuthority, Bool.or_assoc, ends, Bool.or_true]
  obtain ⟨before, after, rfl⟩ := List.append_of_mem present
  rw [Authority.read_stop c stops scheme _ _ web] at found
  obtain ⟨_, _, same⟩ := (map_ok _ _ _).mp found
  cases same
  have open' := pathOnly c (by simp)
  rw [ends] at open'
  cases open'

theorem slashes_open (count : Nat) : ∀ c ∈ List.replicate count '/', (!Url.endsPath c) = true := by
  intro c present
  rw [List.eq_of_mem_replicate present]
  decide

/-- Whatever follows a text that a base is read from, it does not hold the base if the base has a
query or a fragment. -/
theorem held_bare (base : Url) (place gap : List Char)
    (carried : Client.carriedSchemes.contains base.scheme = true) (count : Nat)
    (short : Url.readPlace base.scheme place (List.replicate count '/') = .ok base)
    (held : base.HeldBy (place ++ gap)) : base.query = none ∧ base.fragment = none := by
  have web := carried_web base.scheme carried
  obtain ⟨authority, front, readHost, built⟩ := (Url.readPlace_ok ..).mp short
  obtain ⟨other, behind, longer, pathOnly, _⟩ := held
  have longerOnly := read_open base.scheme (place ++ gap) web other behind longer pathOnly
  obtain ⟨inside, _⟩ := Authority.read_found base.scheme place web authority front readHost
  have frontOnly : ∀ c ∈ front, (!Url.endsPath c) = true :=
    fun c present => longerOnly c (List.mem_append_left gap (inside.subset present))
  rw [← built, ← Url.build_bare]
  exact List.forall_mem_append.mpr ⟨frontOnly, slashes_open count⟩

/-- A text whose path the base has, perhaps with slashes behind it, holds the base if there is no
query and no fragment and one slash more is no second one. -/
theorem held_alone (base : Url) (place : List Char) (authority : Authority) (behind : List Char)
    (carried : Client.carriedSchemes.contains base.scheme = true) (count : Nat)
    (found : Authority.read base.scheme place = .ok (authority, behind))
    (built : Url.build base.scheme (some authority) (Url.readPath .web)
      (behind ++ List.replicate count '/') = base) :
    base.HeldBy place ↔ base.query = none ∧ base.fragment = none ∧
      ¬ ['/', '/'] <:+ (Url.build base.scheme (some authority) (Url.readPath .web)
        (behind ++ ['/'])).path.text := by
  have web := carried_web base.scheme carried
  have whole := Url.build_bare base.scheme (some authority) (Url.readPath .web)
    (behind ++ List.replicate count '/')
  rw [built] at whole
  rw [← and_assoc, ← whole]
  have behindSlash (pathOnly : ∀ c ∈ behind, (!Url.endsPath c) = true) :
      (Url.build base.scheme (some authority) (Url.readPath .web) (behind ++ ['/'])).path.text =
        (UrlPath.rooted (Url.segmentsBefore behind).reverse).text ++ ['/'] := by
    rw [Url.build_below _ _ web behind [] pathOnly]
    exact Url.below_path _ _ [] (Url.slashes_written 0)
  constructor
  · rintro ⟨other, path, read, pathOnly, _, text⟩
    cases found.symm.trans read
    have all : ∀ c ∈ behind ++ List.replicate count '/', (!Url.endsPath c) = true :=
      List.forall_mem_append.mpr ⟨pathOnly, slashes_open count⟩
    refine ⟨all, ?_⟩
    rw [behindSlash pathOnly, ← withoutSlashes_same, text]
    exact List.rdropWhile_idempotent _ _
  · rintro ⟨all, single⟩
    have pathOnly : ∀ c ∈ behind, (!Url.endsPath c) = true :=
      fun c present => all c (List.mem_append_left _ present)
    refine ⟨authority, behind, found, pathOnly, by rw [← built]; rfl, ?_⟩
    rw [behindSlash pathOnly, ← withoutSlashes_same] at single
    rw [← built, Url.build, List.takeWhile_eq_self_iff.mpr all, Url.readPath_slashes, single]

/-- The paths at which a client asks the service or sends its users to it. The lookup of a price is
left out; its argument is part of the path. -/
inductive Client.Visits (client : Client) : String → Prop
  | page : client.Visits Client.checkoutPath
  | call {α : Type} (call : Call α) (outside : call.looksUp = false) (ask : Ask)
      (asked : ask ∈ (call.shape client.platform).asks) : client.Visits ask.path

theorem visits_written (client : Client) (path : String) (visited : client.Visits path) :
    Url.Written (Client.withoutStartSlashes path).toList := by
  cases visited with
  | page =>
      have kept : (Client.withoutStartSlashes Client.checkoutPath).toList.all
        (fun c => keptInPath c && c != '\\') = true := by decide
      refine ⟨fun c present => ?_, by decide⟩
      simpa using List.all_eq_true.mp kept c present
  | call call outside ask asked =>
      obtain ⟨errand, _, of⟩ :=
        forall₂_right (call_errands call client.platform outside).flip ask asked
      rw [of.endpoint]
      exact of.plain

/-- Whether the endpoints of a client are below its base, in terms of the base alone. -/
structure Client.ServesTogether (settings : ClientSettings) (client : Client) (base : Url) :
    Prop where
  /-- The base with a slash behind it decides for every path that is written as it is given. -/
  together : ∀ path, Url.Written (Client.withoutStartSlashes path).toList →
    (ReadsBelow base (Client.withoutStartSlashes path).toList (client.address path) ↔
      ReadsBelow base [] (client.baseUrl ++ "/"))
  endpoints : ∀ path, client.Visits path → Url.Written (Client.withoutStartSlashes path).toList
  bare : ReadsBelow base [] (client.baseUrl ++ "/") → base.query = none ∧ base.fragment = none
  /-- Unless the base ends in a blank, only slashes that are left at the end of its path matter. -/
  visible : (∀ last, settings.baseUrl.toList.getLast? = some last → Url.isOuterBlank last = false) →
    ∃ url, Url.read (client.baseUrl ++ "/") = .ok url ∧
      (ReadsBelow base [] (client.baseUrl ++ "/") ↔
        base.query = none ∧ base.fragment = none ∧ ¬ ['/', '/'] <:+ url.path.text)
  slashes : ReadsBelow base [] (client.baseUrl ++ "/") → ∀ count, ∃ other,
    Url.read (settings.baseUrl ++ String.ofList (List.replicate count '/')) = .ok other ∧
      Client.ofSettings { settings with
        baseUrl := settings.baseUrl ++ String.ofList (List.replicate count '/') } = .ok client ∧
      ReadsBelow other [] (client.baseUrl ++ "/") ∧
      other.scheme = base.scheme ∧ other.place = base.place ∧ other.path.bare = base.path.bare

theorem withoutEndSlashes_more (text : String) (count : Nat) :
    Client.withoutEndSlashes (text ++ String.ofList (List.replicate count '/')) =
      Client.withoutEndSlashes text := by
  have same := withoutSlashes_more text.toList count
  simp only [List.rdropWhile] at same
  rw [Client.withoutEndSlashes, Client.withoutEndSlashes, String.toList_append,
    String.toList_ofList, same]

/-- With more slashes behind it a base is another one with the same path but for these. -/
theorem Client.longer_base (settings : ClientSettings) (client : Client)
    (made : Client.ofSettings settings = .ok client) (base : Url)
    (readBase : Url.read settings.baseUrl = .ok base)
    (longer : ∀ slashes (address : String),
      address.toList = client.baseUrl.toList ++ '/' :: List.replicate slashes '/' →
        ReadsBelow base (List.replicate slashes '/') address) (count : Nat) :
    ∃ other, Url.read (settings.baseUrl ++ String.ofList (List.replicate count '/')) = .ok other ∧
      other.scheme = base.scheme ∧ other.place = base.place ∧
      other.path.bare = base.path.bare := by
  cases count with
  | zero => exact ⟨base, by simpa using readBase, rfl, rfl, rfl⟩
  | succ count =>
      obtain ⟨given, whole⟩ := client.given_slashes settings made
      obtain ⟨other, found, below⟩ := longer (given + count)
        (settings.baseUrl ++ String.ofList (List.replicate (count + 1) '/')) (by
          rw [String.toList_append, String.toList_ofList, whole, List.append_assoc,
            List.replicate_append_replicate, ← Nat.add_assoc, List.replicate_succ])
      refine ⟨other, found, below.scheme, below.place, ?_⟩
      change other.path.text.rdropWhile (· == '/') = _
      rw [below.path, ← List.replicate_succ, withoutSlashes_more]
      exact List.rdropWhile_idempotent _ _

/-- A base that a client is made for serves all endpoints or none. It serves them if, with a slash
behind it, it reads as its own host and path. A query or a fragment of the base is always in the
way, and so is a slash that is left at the end of its path. -/
theorem base_serves (settings : ClientSettings) (client : Client)
    (made : Client.ofSettings settings = .ok client) (base : Url)
    (readBase : Url.read settings.baseUrl = .ok base)
    (carried : Client.carriedSchemes.contains base.scheme = true) :
    Client.ServesTogether settings client base := by
  obtain ⟨place, gap, count, short, _, visible, addresses⟩ :=
    client.addresses_read settings made base readBase carried
  have read (path : List Char) (written : Url.Written path) (address : String)
      (whole : address.toList = client.baseUrl.toList ++ '/' :: path) :=
    readsBelow_iff base (place ++ gap) path address carried written (addresses address path whole)
  have ground := read [] (Url.slashes_written 0) (client.baseUrl ++ "/") (by simp)
  constructor
  case together =>
    intro path written
    rw [ground]
    exact read _ written _ (by simp [Client.address])
  case endpoints => exact visits_written client
  case bare =>
    rw [ground]
    exact held_bare base place gap carried count short
  case visible =>
    intro ending
    obtain rfl := visible ending
    rw [List.append_nil] at addresses ground
    obtain ⟨authority, front, readHost, built⟩ := (Url.readPlace_ok ..).mp short
    have found := addresses (client.baseUrl ++ "/") [] (by simp)
    refine ⟨_, found.trans ((Url.readPlace_ok ..).mpr ⟨authority, front, readHost, rfl⟩), ?_⟩
    rw [ground]
    exact held_alone base place authority front carried count readHost built
  case slashes =>
    intro served more
    have longer (slashes : Nat) (address : String)
        (whole : address.toList = client.baseUrl.toList ++ '/' :: List.replicate slashes '/') :
        ReadsBelow base (List.replicate slashes '/') address :=
      (read _ (Url.slashes_written slashes) address whole).mpr (ground.mp served)
    obtain ⟨other, readOther, scheme, place, path⟩ :=
      client.longer_base settings made base readBase longer more
    obtain ⟨url, found, below⟩ := served
    refine ⟨other, readOther, ?_, ⟨url, found, ?_⟩, scheme, place, path⟩
    · rw [Client.ofSettings, readOther, withoutEndSlashes_more]
      rw [Client.ofSettings, readBase] at made
      exact made
    · exact ⟨by rw [scheme, below.scheme], by rw [place, below.place], below.noQuery,
        below.noFragment, by rw [path, below.path]⟩

theorem slashed_api_serves :
    Client.ofSettings apiSettings = .ok ⟨"http://[::1]/api", .mobile⟩ ∧
      Url.read apiSettings.baseUrl = .ok (pathBase ["api".toList, [], []]) ∧
      Client.carriedSchemes.contains (pathBase ["api".toList, [], []]).scheme = true ∧
      Client.ServesTogether apiSettings ⟨"http://[::1]/api", .mobile⟩
        (pathBase ["api".toList, [], []]) ∧
      ReadsBelow (pathBase ["api".toList, [], []]) [] "http://[::1]/api/" :=
  ⟨rfl, rfl, rfl, base_serves apiSettings _ rfl _ rfl rfl, _, rfl, rfl, rfl, rfl, rfl, rfl⟩

def queryBase : Url := { pathBase ["a".toList] with query := some "x=1".toList }

/-- Two bases that are read alone when a client is made, and with an endpoint behind them when it
asks: there is a client and they do not serve it. What follows the first becomes a part of its
query, and the blank at the end of the second a part of its host. -/
theorem accepted_base_misread :
    (Client.ofSettings (.ofBaseUrl "http://[::1]/a?x=1") = .ok ⟨"http://[::1]/a?x=1", .desktop⟩ ∧
      Url.read "http://[::1]/a?x=1" = .ok queryBase ∧
      Client.Visits ⟨"http://[::1]/a?x=1", .desktop⟩ "/limits" ∧
      Url.read (Client.address ⟨"http://[::1]/a?x=1", .desktop⟩ "/limits") =
        .ok { queryBase with query := some "x=1/limits".toList } ∧
      ¬ ReadsBelow queryBase "limits".toList
        (Client.address ⟨"http://[::1]/a?x=1", .desktop⟩ "/limits")) ∧
    (Client.ofSettings (.ofBaseUrl "http://[::1] ") = .ok ⟨"http://[::1] ", .desktop⟩ ∧
      Url.read "http://[::1] " = .ok (pathBase [[]]) ∧
      Client.Visits ⟨"http://[::1] ", .desktop⟩ "/limits" ∧
      Url.read (Client.address ⟨"http://[::1] ", .desktop⟩ "/limits") = .error .invalidIpv6) := by
  have visits (client : Client) : client.Visits "/limits" :=
    .call (.limits "ada") rfl _ List.mem_cons_self
  refine ⟨⟨rfl, rfl, visits _, rfl, ?_⟩, rfl, rfl, visits _, rfl⟩
  rintro ⟨url, found, below⟩
  obtain rfl := Except.ok.inj (found.symm.trans (b := .ok _) rfl)
  have noQuery := below.noQuery
  cases noQuery

end Entitlement
