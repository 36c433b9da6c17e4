import Mathlib.Data.List.TakeWhile
import Entitlement.Proofs.Results
import Entitlement.Service.Request

/-!
What an address keeps of the base it starts with. Behind the base stands a slash, and a slash ends
the part of a URL that names the user and the host; so whatever path follows, the user is that of
the base.
-/

namespace Entitlement

/-- What may stand behind a base: nothing, or blanks from its end, a slash and a path. -/
inductive FollowsBase : List Char → Prop
  | nothing : FollowsBase []
  | path (gap rest : List Char) (blank : ∀ c ∈ gap, Url.isOuterBlank c = true) :
      FollowsBase (gap ++ '/' :: rest)

theorem blank_other (c other : Char) (blank : Url.isOuterBlank c = true)
    (visible : Url.isOuterBlank other = false) : c ≠ other := by
  rintro rfl
  rw [blank] at visible
  cases visible

theorem dropWhile_stop (p : Char → Bool) (c : Char) (stops : p c = false)
    (before after : List Char) :
    (before ++ c :: after).dropWhile p = before.dropWhile p ++ c :: after := by
  induction before with
  | nil => simp [stops]
  | cons first rest ih =>
      cases held : p first <;> simp [held, ih]

/-- The first character behind a base is a blank or a slash. -/
theorem FollowsBase.first {c : Char} {rest : List Char} (follows : FollowsBase (c :: rest)) :
    Url.isOuterBlank c = true ∨ c = '/' := by
  generalize same : c :: rest = tail at follows
  cases follows with
  | nothing => cases same
  | path gap more blank =>
      cases gap with
      | nil =>
          cases same
          exact .inr rfl
      | cons d gap =>
          cases same
          exact .inl (blank c List.mem_cons_self)

-- Trimming

theorem trimmed_base (stem : List Char) :
    ∃ gap, (∀ c ∈ gap, Url.isOuterBlank c = true) ∧ ∀ rest, ∃ more, (∀ c ∈ more, c ∈ rest) ∧
      Url.trimmed (stem ++ '/' :: rest) = Url.trimmed stem ++ (gap ++ '/' :: more) := by
  have split := List.takeWhile_append_dropWhile (p := Url.isOuterBlank)
    (l := (stem.dropWhile Url.isOuterBlank).reverse)
  refine ⟨(((stem.dropWhile Url.isOuterBlank).reverse.takeWhile
    Url.isOuterBlank).reverse).filter (!Url.isBreak ·), ?blank, fun rest =>
      ⟨((rest.reverse.dropWhile Url.isOuterBlank).reverse).filter (!Url.isBreak ·), ?among, ?_⟩⟩
  case blank =>
    intro c present
    have inside := List.mem_reverse.mp (List.mem_filter.mp present).1
    exact List.mem_takeWhile_imp inside
  case among =>
    intro c present
    have inside := List.mem_reverse.mp (List.mem_filter.mp present).1
    exact List.mem_reverse.mp ((List.dropWhile_sublist _).subset inside)
  have whole := congrArg List.reverse split
  rw [List.reverse_append, List.reverse_reverse] at whole
  rw [Url.trimmed, Url.trimmed, dropWhile_stop _ _ (by decide), List.reverse_append,
    List.reverse_cons, List.append_assoc, List.singleton_append, dropWhile_stop _ _ (by decide),
    List.reverse_append, List.reverse_cons, List.reverse_reverse, ← whole]
  simp [Url.isBreak]

-- The scheme

theorem takeWhile_exact (p : Char → Bool) (before after : List Char) (c : Char)
    (inside : ∀ c ∈ before, p c = true) (stops : p c = false) :
    (before ++ c :: after).takeWhile p = before ∧
      (before ++ c :: after).dropWhile p = c :: after := by
  rw [List.takeWhile_append_of_pos inside, List.dropWhile_append_of_pos inside]
  simp [stops]

theorem scheme_read (text scheme after : List Char) :
    Scheme.read? text = some (scheme, after) ↔ ∃ first rest,
      text = (first :: rest) ++ ':' :: after ∧ (∀ c ∈ first :: rest, Scheme.isPart c = true) ∧
        first.isAlpha = true ∧ scheme = (first :: rest).map Char.toLower := by
  constructor
  · intro found
    have split := List.takeWhile_append_dropWhile (p := Scheme.isPart) (l := text)
    have parts : ∀ c ∈ text.takeWhile Scheme.isPart, Scheme.isPart c = true :=
      fun c present => List.mem_takeWhile_imp present
    rw [Scheme.read?] at found
    generalize text.takeWhile Scheme.isPart = before at *
    generalize text.dropWhile Scheme.isPart = behind at *
    split at found
    · next first rest rest' =>
        split at found
        · next alpha =>
            cases found
            exact ⟨first, rest, split.symm, parts, alpha, rfl⟩
        · cases found
    · cases found
  · rintro ⟨first, rest, rfl, parts, alpha, rfl⟩
    obtain ⟨before, behind⟩ := takeWhile_exact Scheme.isPart (first :: rest) after ':' parts
      (by decide)
    rw [Scheme.read?, before, behind]
    exact if_pos alpha

theorem blank_not_part (c : Char) (blank : Url.isOuterBlank c = true) :
    Scheme.isPart c = false := by
  have low : c.toNat < 33 := by
    have below : c.val ≤ ' '.val := of_decide_eq_true blank
    exact Nat.lt_succ_of_le (UInt32.le_iff_toNat_le.mp below)
  have noPart : ∀ code < 33, Scheme.isPart (Char.ofNat code) = false := by decide
  have found := noPart c.toNat low
  rwa [Char.ofNat_toNat] at found

/-- The scheme is part of the base, so it does not depend on what follows. -/
theorem scheme_base (body tail : List Char) (follows : FollowsBase tail)
    (scheme after : List Char) (found : Scheme.read? (body ++ tail) = some (scheme, after)) :
    ∃ rest, after = rest ++ tail ∧ ∀ other,
      Scheme.read? (body ++ other) = some (scheme, rest ++ other) := by
  obtain ⟨first, parts, whole, areParts, alpha, rfl⟩ := (scheme_read ..).mp found
  have apart : ∀ c rest, tail = c :: rest → Scheme.isPart c = false ∧ c ≠ ':' := by
    rintro c rest rfl
    rcases follows.first with blank | rfl
    · exact ⟨blank_not_part c blank, blank_other c ':' blank (by decide)⟩
    · decide
  rcases List.append_eq_append_iff.mp whole with ⟨more, inside, behind⟩ | ⟨more, inside, behind⟩
  · cases more with
    | nil => exact absurd rfl (apart ':' after behind).2
    | cons c more =>
        have part := areParts c (inside ▸ List.mem_append_right _ List.mem_cons_self)
        rw [(apart c _ behind).1] at part
        cases part
  · cases more with
    | nil => exact absurd rfl (apart ':' after behind.symm).2
    | cons c rest =>
        cases behind
        refine ⟨rest, rfl, fun other => (scheme_read ..).mpr ?_⟩
        refine ⟨first, parts, ?_, areParts, alpha, rfl⟩
        rw [inside, List.append_assoc]
        rfl

-- The user

/-- The text before the last at sign, which names the user and the password. -/
def Authority.infoOf (named : List Char) : List Char :=
  ((Authority.atLastAt? named).getD ([], named)).1

theorem info_none (named : List Char) (noAt : '@' ∉ named) : Authority.infoOf named = [] := by
  rw [Authority.infoOf, Authority.atLastAt?, if_neg (by simpa using noAt)]
  rfl

theorem info_last (before after : List Char) (noAt : '@' ∉ after) :
    Authority.infoOf (before ++ '@' :: after) = before := by
  have passed : ∀ c ∈ after.reverse, decide (c ≠ '@') = true := by
    intro c present
    exact decide_eq_true fun same => noAt (same ▸ List.mem_reverse.mp present)
  have behind := (takeWhile_exact (fun c => decide (c ≠ '@')) after.reverse before.reverse '@'
    passed (by decide)).1
  rw [Authority.infoOf, Authority.atLastAt?, if_pos (by simp), List.reverse_append,
    List.reverse_cons, List.append_assoc, List.singleton_append, behind, List.reverse_reverse]
  have length : (before ++ '@' :: after).length - after.length - 1 = before.length := by
    rw [List.length_append, List.length_cons]
    omega
  rw [Option.getD_some, length]
  exact List.take_left

theorem last_at (named : List Char) (held : '@' ∈ named) :
    ∃ before after, named = before ++ '@' :: after ∧ '@' ∉ after := by
  induction named with
  | nil => cases held
  | cons c rest ih =>
      by_cases later : '@' ∈ rest
      · obtain ⟨before, after, rfl, noAt⟩ := ih later
        exact ⟨c :: before, after, rfl, noAt⟩
      · obtain rfl | inside := List.mem_cons.mp held
        · exact ⟨[], rest, rfl, later⟩
        · exact absurd inside later

theorem info_append (named gap : List Char) (noAt : '@' ∉ gap) :
    Authority.infoOf (named ++ gap) = Authority.infoOf named := by
  by_cases held : '@' ∈ named
  · obtain ⟨before, after, rfl, noLater⟩ := last_at named held
    rw [List.append_assoc, List.cons_append, info_last before after noLater,
      info_last before (after ++ gap)]
    exact fun inside => (List.mem_append.mp inside).elim noLater noAt
  · rw [info_none named held, info_none]
    exact fun inside => (List.mem_append.mp inside).elim held noAt

theorem read_user (scheme rest : List Char) (authority : Authority) (after : List Char)
    (found : Authority.read scheme rest = .ok (authority, after)) :
    (authority.user, authority.password) = Authority.ofUserInfo (Authority.infoOf
      (rest.takeWhile (!(SchemeKind.ofScheme scheme).endsAuthority ·))) := by
  simp only [Authority.read] at found
  split at found
  · cases found
  · obtain ⟨host, _, found⟩ := (bind_ok _ _ _).mp found
    obtain ⟨port, _, found⟩ := (bind_ok _ _ _).mp found
    split at found
    · cases found
    · cases found
      rfl

def webInfo (after : List Char) : List Char :=
  Authority.infoOf ((after.dropWhile (SchemeKind.web.isSlash ·)).takeWhile
    (!SchemeKind.web.endsAuthority ·))

theorem webInfo_read (scheme after : List Char) (web : SchemeKind.ofScheme scheme = .web)
    (url : Url) (found : Url.readWeb scheme after = .ok url) :
    ∃ authority, url.authority = some authority ∧
      (authority.user, authority.password) = Authority.ofUserInfo (webInfo after) := by
  obtain ⟨⟨authority, rest⟩, read, same⟩ := (bind_ok _ _ _).mp found
  cases same
  have user := read_user scheme _ authority rest read
  rw [web] at user
  exact ⟨authority, rfl, user⟩

/-- The part that names the user ends before the slash behind a base. -/
theorem webInfo_base (base gap more : List Char)
    (blank : ∀ c ∈ gap, Url.isOuterBlank c = true)
    (named : base.dropWhile (SchemeKind.web.isSlash ·) ≠ [] ∨ gap ≠ []) :
    webInfo (base ++ (gap ++ '/' :: more)) = webInfo base := by
  have noAt : '@' ∉ gap := fun inside => blank_other '@' '@' (blank '@' inside) (by decide) rfl
  have open' : ∀ c ∈ gap, (!SchemeKind.web.endsAuthority c) = true := by
    intro c inside
    have slash := blank_other c '/' (blank c inside) (by decide)
    have backslash := blank_other c '\\' (blank c inside) (by decide)
    have question := blank_other c '?' (blank c inside) (by decide)
    have hash := blank_other c '#' (blank c inside) (by decide)
    simp [SchemeKind.endsAuthority, SchemeKind.isSlash, slash, backslash, question, hash]
  have upToSlash := (takeWhile_exact (!SchemeKind.web.endsAuthority ·) gap more '/' open'
    (by decide)).1
  rw [webInfo, webInfo, List.dropWhile_append]
  cases place : base.dropWhile (SchemeKind.web.isSlash ·) with
  | nil =>
      cases gap with
      | nil => simp [place] at named
      | cons c gap =>
          have slash := blank_other c '/' (blank c List.mem_cons_self) (by decide)
          have backslash := blank_other c '\\' (blank c List.mem_cons_self) (by decide)
          have kept : SchemeKind.web.isSlash c = false := by
            simp [SchemeKind.isSlash, slash, backslash]
          rw [List.isEmpty_nil, if_pos rfl, List.cons_append,
            List.dropWhile_cons_of_neg (by simp [kept]), ← List.cons_append, upToSlash,
            info_none _ noAt]
          rfl
  | cons c rest =>
      rw [List.isEmpty_cons, if_neg (by simp), List.takeWhile_append, upToSlash]
      split
      · next all =>
          rw [info_append _ gap noAt, (List.takeWhile_prefix _).eq_of_length all]
      · rfl

-- Addresses

/-- The authorization that a URL gives to its requests, if it names a user. -/
def Url.ownAuthorizations (url : Url) : List String :=
  (url.authority.bind Authority.credentials?).toList

theorem own_without_user (url : Url)
    (unnamed : url.authority.any Authority.hasUserInfo = false) : url.ownAuthorizations = [] := by
  rw [Url.ownAuthorizations]
  cases held : url.authority with
  | none => rfl
  | some authority =>
      obtain ⟨noUser, noPassword⟩ : authority.user = [] ∧ authority.password = [] := by
        simpa [held, Authority.hasUserInfo] using unnamed
      rw [Option.bind_some, Authority.credentials?, Authority.password?, noUser, noPassword]
      rfl

theorem settled_scheme (url : Url) : (Url.settled url).scheme = url.scheme := by
  rw [Url.settled]
  dsimp only
  split
  · split <;> rfl
  · rfl

theorem readFile_scheme (scheme rest : List Char) (url : Url)
    (found : Url.readFile scheme rest = .ok url) : url.scheme = scheme := by
  unfold Url.readFile at found
  split at found
  · split at found
    · rw [Url.readLocated] at found
      dsimp only at found
      split at found
      · cases found
        exact settled_scheme _
      · obtain ⟨host, _, same⟩ := (bind_ok _ _ _).mp found
        cases same
        exact settled_scheme _
    · cases found
      exact settled_scheme _
  · cases found
    exact settled_scheme _

theorem readScheme_scheme (scheme rest : List Char) (url : Url)
    (found : Url.readScheme scheme rest = .ok url) : url.scheme = scheme := by
  rw [Url.readScheme] at found
  split at found
  · obtain ⟨_, _, same⟩ := (bind_ok _ _ _).mp found
    cases same
    rfl
  · exact readFile_scheme scheme rest url found
  · unfold Url.readOther at found
    split at found
    · obtain ⟨_, _, same⟩ := (bind_ok _ _ _).mp found
      cases same
      rfl
    · cases found
      rfl
    · cases found
      rfl

theorem readWeb_hostless (scheme after : List Char) (web : SchemeKind.ofScheme scheme = .web)
    (nothing : after.dropWhile (SchemeKind.web.isSlash ·) = []) :
    Url.readWeb scheme after = .error .emptyHost := by
  rw [Url.readWeb, nothing]
  simp [Authority.read, Authority.atLastAt?, Authority.splitHost, Authority.hostOf, web,
    SchemeKind.isKnown, bind, Except.bind]

theorem endSlashes (text : String) :
    ∃ slashes, (∀ c ∈ slashes, c = '/') ∧
      text.toList = (Client.withoutEndSlashes text).toList ++ slashes := by
  refine ⟨(text.toList.reverse.takeWhile (· == '/')).reverse, fun c present => ?_, ?_⟩
  · have inside := List.mem_reverse.mp present
    have slash := List.mem_takeWhile_imp (p := (· == '/')) inside
    exact beq_iff_eq.mp slash
  · rw [Client.withoutEndSlashes, String.toList_ofList, ← List.reverse_append,
      List.takeWhile_append_dropWhile, List.reverse_reverse]

theorem Client.base_kept (settings : ClientSettings) (client : Client)
    (made : Client.ofSettings settings = .ok client) :
    client.baseUrl = Client.withoutEndSlashes settings.baseUrl := by
  rw [Client.ofSettings] at made
  split at made
  · cases made
  · cases made
    rfl

/-- The base as it was given is the base that is kept, with a path of slashes if it ends in some. -/
theorem base_given (settings : String) (kept : List Char)
    (same : kept = (Client.withoutEndSlashes settings).toList) :
    ∃ gap, (∀ c ∈ gap, Url.isOuterBlank c = true) ∧
      (∃ tail, Url.trimmed settings.toList = Url.trimmed kept ++ tail ∧
        (tail = [] ∨ ∃ more, (∀ c ∈ more, c = '/') ∧ tail = gap ++ '/' :: more)) ∧
      ∀ rest, ∃ more, Url.trimmed (kept ++ '/' :: rest) = Url.trimmed kept ++ (gap ++ '/' :: more)
      := by
  obtain ⟨slashes, areSlashes, whole⟩ := endSlashes settings
  rw [← same] at whole
  obtain ⟨gap, blank, behind⟩ := trimmed_base kept
  refine ⟨gap, blank, ?given, fun rest => (behind rest).imp fun more found => found.2⟩
  cases slashes with
  | nil => exact ⟨[], by rw [whole, List.append_nil, List.append_nil], .inl rfl⟩
  | cons c rest =>
      obtain rfl := areSlashes c List.mem_cons_self
      obtain ⟨more, among, trimmed⟩ := behind rest
      refine ⟨_, by rw [whole, trimmed], .inr ⟨more, fun c present => ?_, rfl⟩⟩
      exact areSlashes c (List.mem_cons_of_mem _ (among c present))

theorem dropWhile_slashes (slashes : List Char) (areSlashes : ∀ c ∈ slashes, c = '/') :
    slashes.dropWhile (SchemeKind.web.isSlash ·) = [] := by
  rw [List.dropWhile_eq_nil_iff]
  intro c present
  rw [areSlashes c present]
  decide

/-- What is read of a web address has the user of its base, if the base itself can be read. -/
theorem web_user (scheme base gap tail more : List Char)
    (web : SchemeKind.ofScheme scheme = .web) (blank : ∀ c ∈ gap, Url.isOuterBlank c = true)
    (given : tail = [] ∨ ∃ more, (∀ c ∈ more, c = '/') ∧ tail = gap ++ '/' :: more)
    (short long : Url) (readShort : Url.readWeb scheme (base ++ tail) = .ok short)
    (readLong : Url.readWeb scheme (base ++ (gap ++ '/' :: more)) = .ok long) :
    long.ownAuthorizations = short.ownAuthorizations := by
  -- Without a host there is nothing that can be read, so the base has more than slashes.
  have named : base.dropWhile (SchemeKind.web.isSlash ·) ≠ [] ∨ gap ≠ [] := by
    by_contra nothing
    obtain ⟨bare, noGap⟩ := not_or.mp nothing
    rw [not_not] at bare noGap
    have tailSlashes : ∀ c ∈ tail, c = '/' := by
      rcases given with rfl | ⟨slashes, areSlashes, rfl⟩
      · exact fun c present => absurd present List.not_mem_nil
      · rw [noGap]
        exact fun c present => (List.mem_cons.mp present).elim id (areSlashes c)
    have hostless := readWeb_hostless scheme (base ++ tail) web
      (by rw [List.dropWhile_append, bare, dropWhile_slashes tail tailSlashes]; rfl)
    rw [readShort] at hostless
    cases hostless
  have infoShort : webInfo (base ++ tail) = webInfo base := by
    rcases given with rfl | ⟨slashes, _, rfl⟩
    · rw [List.append_nil]
    · exact webInfo_base base gap slashes blank named
  obtain ⟨authority, held, user⟩ := webInfo_read scheme _ web short readShort
  obtain ⟨other, heldOther, userOther⟩ := webInfo_read scheme _ web long readLong
  rw [infoShort] at user
  rw [webInfo_base base gap more blank named, ← user] at userOther
  obtain ⟨sameUser, samePassword⟩ := Prod.mk.inj userOther
  rw [Url.ownAuthorizations, Url.ownAuthorizations, held, heldOther, Option.bind_some,
    Option.bind_some, Authority.credentials?, Authority.credentials?, Authority.password?,
    Authority.password?, sameUser, samePassword]

theorem carried_web (scheme : List Char)
    (carried : Client.carriedSchemes.contains scheme = true) :
    SchemeKind.ofScheme scheme = .web := by
  rw [Client.carriedSchemes, List.contains_iff_mem, List.mem_cons, List.mem_singleton] at carried
  rcases carried with rfl | rfl <;> decide

/-- The address of an endpoint has the user of the base that the client was made for. -/
theorem Client.address_own (settings : ClientSettings) (client : Client)
    (made : Client.ofSettings settings = .ok client) (base : Url)
    (readBase : Url.read settings.baseUrl = .ok base) (path : String) (url : Url)
    (readAddress : Url.read (client.address path) = .ok url)
    (carried : Client.carriedSchemes.contains url.scheme = true) :
    url.ownAuthorizations = base.ownAuthorizations := by
  obtain ⟨gap, blank, ⟨tail, given, followed⟩, behind⟩ := base_given settings.baseUrl
    client.baseUrl.toList (congrArg String.toList (Client.base_kept settings client made))
  have follows : FollowsBase tail := by
    rcases followed with rfl | ⟨more, _, rfl⟩
    · exact .nothing
    · exact .path gap more blank
  obtain ⟨more, address⟩ := behind (Client.withoutStartSlashes path).toList
  rw [Url.read, given] at readBase
  split at readBase
  · cases readBase
  next scheme after found =>
  obtain ⟨rest, rfl, others⟩ := scheme_base _ tail follows scheme after found
  have target : (client.address path).toList =
      client.baseUrl.toList ++ '/' :: (Client.withoutStartSlashes path).toList := by
    simp [Client.address]
  rw [Url.read, target, address, others] at readAddress
  dsimp only at readAddress
  rw [readScheme_scheme _ _ _ readAddress] at carried
  have web := carried_web scheme carried
  rw [Url.readScheme, web] at readAddress readBase
  exact web_user scheme rest gap tail more web blank followed base url readBase readAddress

end Entitlement
