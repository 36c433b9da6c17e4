import Entitlement.Proofs.BaseAddress
import Entitlement.Proofs.PathBelow

/-!
Addresses below a base. Such a base has a host and a path, but no query and no fragment. A slash
ends the part of it that names the host, so what follows the slash changes neither that part nor the
segments of the base: it adds segments of its own, and it may add a query and a fragment.
-/

namespace Entitlement

open Text

theorem takeWhile_stop (p : Char → Bool) (c : Char) (stops : p c = false)
    (before after : List Char) :
    (before ++ c :: after).takeWhile p = before.takeWhile p := by
  induction before with
  | nil => simp [stops]
  | cons first rest ih =>
      cases held : p first <;> simp [held, ih]

-- Trimming

namespace Url

def endTrimmed (text : List Char) : List Char :=
  ((text.reverse.dropWhile isOuterBlank).reverse).filter (!isBreak ·)

theorem break_blank (c : Char) (visible : isOuterBlank c = false) : isBreak c = false := by
  by_contra broken
  rw [Bool.not_eq_false, isBreak, Bool.or_eq_true, Bool.or_eq_true, beq_iff_eq, beq_iff_eq,
    beq_iff_eq] at broken
  rcases broken with (rfl | rfl) | rfl <;> revert visible <;> decide

theorem endTrimmed_behind (before after : List Char) (c : Char)
    (visible : isOuterBlank c = false) :
    endTrimmed (before ++ c :: after) = before.filter (!isBreak ·) ++ c :: endTrimmed after := by
  rw [endTrimmed, endTrimmed, List.reverse_append, List.reverse_cons, List.append_assoc,
    List.singleton_append, dropWhile_stop _ _ visible, List.reverse_append, List.reverse_cons,
    List.reverse_reverse, List.append_assoc, List.singleton_append, List.filter_append,
    List.filter_cons_of_pos (by simp [break_blank c visible])]

theorem endTrimmed_sublist (text : List Char) : (endTrimmed text).Sublist text := by
  have dropped : (text.reverse.dropWhile isOuterBlank).reverse.Sublist text := by
    rw [← List.reverse_sublist, List.reverse_reverse]
    exact List.dropWhile_sublist _
  exact List.filter_sublist.trans dropped

/-- Nothing is trimmed if and only if there is neither a line break nor a blank at the end. -/
theorem endTrimmed_same (text : List Char) :
    endTrimmed text = text ↔ (∀ c ∈ text, isBreak c = false) ∧
      ∀ c, text.getLast? = some c → isOuterBlank c = false := by
  constructor
  · intro same
    have unbroken : ∀ c ∈ text, isBreak c = false := by
      intro c present
      rw [← same] at present
      simpa using (List.mem_filter.mp present).2
    refine ⟨unbroken, fun last ends => ?_⟩
    obtain ⟨front, rfl⟩ := List.getLast?_eq_some_iff.mp ends
    by_contra blank
    have shorter : endTrimmed (front ++ [last]) = endTrimmed front := by
      rw [endTrimmed, endTrimmed, List.reverse_concat,
        List.dropWhile_cons_of_pos (by simpa using blank)]
    have kept := (endTrimmed_sublist front).length_le
    rw [← shorter, same, List.length_append, List.length_singleton] at kept
    omega
  · rintro ⟨unbroken, visible⟩
    rcases List.eq_nil_or_concat' text with rfl | ⟨front, last, rfl⟩
    · rfl
    rw [endTrimmed_behind front [] last (visible last (List.getLast?_concat ..))]
    have all : front.filter (!isBreak ·) = front := by
      rw [List.filter_eq_self]
      intro c present
      simp [unbroken c (List.mem_append_left _ present)]
    rw [all]
    rfl

theorem endTrimmed_visible (text : List Char)
    (visible : ∀ c ∈ text, isOuterBlank c = false) : endTrimmed text = text :=
  (endTrimmed_same text).mpr ⟨fun c present => break_blank c (visible c present),
    fun c ends => visible c (List.mem_of_getLast? ends)⟩

/-- Nothing of a text is trimmed where its last visible character stands before something else. -/
theorem trimmed_behind (before : List Char) (last c : Char)
    (visible : isOuterBlank last = false) (follows : isOuterBlank c = false) :
    ∃ start, trimmed (before ++ [last]) = start ++ [last] ∧ ∀ after,
      trimmed (before ++ [last] ++ c :: after) = start ++ [last] ++ c :: endTrimmed after := by
  have whole (text : List Char) : trimmed text = endTrimmed (text.dropWhile isOuterBlank) := rfl
  have inside (more : List Char) : (before ++ last :: more).dropWhile isOuterBlank =
      before.dropWhile isOuterBlank ++ last :: more := dropWhile_stop _ _ visible before more
  refine ⟨(before.dropWhile isOuterBlank).filter (!isBreak ·), ?alone, fun after => ?followed⟩
  case alone => rw [whole, inside, endTrimmed_behind _ _ _ visible]; rfl
  case followed =>
    rw [whole, List.append_assoc, List.singleton_append, inside, endTrimmed_behind _ _ _ visible]
    rw [List.append_assoc, List.singleton_append]
    congr 2
    exact endTrimmed_behind [] after c follows

/-- What is trimmed off the end of a text is kept when a slash follows it. -/
theorem trimmed_gap (stem : List Char) : ∃ gap, (∀ c ∈ gap, isOuterBlank c = true) ∧
    ((∀ last, stem.getLast? = some last → isOuterBlank last = false) → gap = []) ∧
    ∀ rest, trimmed (stem ++ '/' :: rest) = trimmed stem ++ (gap ++ '/' :: endTrimmed rest) := by
  have inside (rest : List Char) : trimmed (stem ++ '/' :: rest) =
      (stem.dropWhile isOuterBlank).filter (!isBreak ·) ++ '/' :: endTrimmed rest := by
    have whole (text : List Char) : trimmed text = endTrimmed (text.dropWhile isOuterBlank) := rfl
    rw [whole, dropWhile_stop _ _ (by decide), endTrimmed_behind _ _ _ (by decide)]
  obtain ⟨gap, blank, behind⟩ := trimmed_base stem
  obtain ⟨more, among, same⟩ := behind []
  obtain rfl : more = [] := List.eq_nil_iff_forall_not_mem.mpr fun c present =>
    absurd (among c present) List.not_mem_nil
  have ends : endTrimmed [] = [] := rfl
  rw [inside, ends, ← List.append_assoc] at same
  have stemmed := List.append_cancel_right same
  refine ⟨gap, blank, fun visible => ?_, fun rest => ?_⟩
  · rcases List.eq_nil_or_concat' stem with rfl | ⟨front, last, rfl⟩
    · exact (List.append_eq_nil_iff.mp stemmed.symm).2
    · obtain ⟨start, alone, followed⟩ := trimmed_behind front last '/'
        (visible last (List.getLast?_concat ..)) (by decide)
      have other := (inside []).symm.trans (followed [])
      rw [stemmed, ← alone, List.append_assoc] at other
      exact List.append_cancel_right (List.append_cancel_left other)
  · rw [inside, stemmed, List.append_assoc]

end Url

-- The part that names the host

namespace Authority

theorem splitHost_stop (c : Char) (ends : SchemeKind.web.endsAuthority c = true)
    (bracketed : Bool) (place after : List Char) :
    splitHost .web bracketed (place ++ c :: after) =
      ((splitHost .web bracketed place).1, (splitHost .web bracketed place).2 ++ c :: after) := by
  induction place generalizing bracketed with
  | nil => simp [splitHost, ends]
  | cons first rest ih =>
      rw [List.cons_append, splitHost, splitHost]
      split
      · rfl
      · rw [ih]

theorem stop_cases (c : Char) (ends : SchemeKind.web.endsAuthority c = true) :
    c = '/' ∨ c = '\\' ∨ c = '?' ∨ c = '#' := by
  simpa [SchemeKind.endsAuthority, SchemeKind.isSlash, SchemeKind.isKnown, or_assoc] using ends

theorem readPort_stop (c : Char) (ends : SchemeKind.web.endsAuthority c = true)
    (scheme rest after : List Char) :
    readPort scheme (rest ++ c :: after) =
      (readPort scheme rest).map fun found => (found.1, found.2 ++ c :: after) := by
  have stops : endsPort c = true ∧ c ≠ ':' := by
    rcases stop_cases c ends with rfl | rfl | rfl | rfl <;> decide
  match rest with
  | [] =>
      rw [List.nil_append, readPort]
      · rfl
      · rintro _ ⟨rfl, rfl⟩
        exact stops.2 rfl
  | first :: rest =>
      by_cases colon : first = ':'
      · subst colon
        rw [List.cons_append, readPort, readPort, takeWhile_stop _ _ (by simp [stops.1]),
          dropWhile_stop _ _ (by simp [stops.1])]
        cases Host.orFault .invalidPort (portOf? (rest.takeWhile (!endsPort ·))) <;> rfl
      · rw [List.cons_append, readPort, readPort]
        · rfl
        · rintro _ ⟨rfl, rfl⟩
          exact colon rfl
        · rintro _ ⟨rfl, rfl⟩
          exact colon rfl

theorem hostOf_web (host after other : List Char) :
    hostOf .web host after = hostOf .web host other := by
  rw [hostOf, hostOf]
  rfl

theorem hostOf_some (host after : List Char) (found : Option Host)
    (read : hostOf .web host after = .ok found) : found.isSome = true := by
  rw [hostOf] at read
  split at read
  · cases read
  · change (Host.ofWebText host).map some = _ at read
    obtain ⟨held, _, rfl⟩ := (map_ok _ _ _).mp read
    rfl

theorem infoOf_suffix (named : List Char) : ((atLastAt? named).getD ([], named)).2 <:+ named := by
  rw [atLastAt?]
  split
  · rw [Option.getD_some, ← List.reverse_prefix, List.reverse_reverse]
    exact List.takeWhile_prefix _
  · exact List.suffix_refl named

theorem splitHost_suffix (kind : SchemeKind) (bracketed : Bool) (place : List Char) :
    (splitHost kind bracketed place).2 <:+ place := by
  induction place generalizing bracketed with
  | nil => exact List.suffix_refl _
  | cons c rest ih =>
      rw [splitHost]
      split
      · exact List.suffix_refl _
      · exact (ih _).trans (List.suffix_cons c rest)

theorem readPort_suffix (scheme rest behind : List Char) (port : Option Nat)
    (found : readPort scheme rest = .ok (port, behind)) : behind <:+ rest := by
  unfold readPort at found
  split at found
  · next digits =>
      obtain ⟨value, _, same⟩ := (bind_ok _ _ _).mp found
      cases same
      exact (List.dropWhile_suffix _).trans (List.suffix_cons ':' digits)
  · cases found
    exact List.suffix_refl _

theorem splitHost_nowhere (kind : SchemeKind) (bracketed : Bool) (text : List Char) :
    (splitHost kind bracketed (text.dropWhile (!kind.endsAuthority ·))).1 = [] := by
  cases place : text.dropWhile (!kind.endsAuthority ·) with
  | nil => rfl
  | cons c rest =>
      have ends := List.head?_dropWhile_not (!kind.endsAuthority ·) text
      rw [place, List.head?_cons] at ends
      have ends : kind.endsAuthority c = true := by simpa using ends
      rw [splitHost, ends]
      rfl

/-- What follows a character that ends the part that names the host does not change that part. -/
theorem read_stop (c : Char) (ends : SchemeKind.web.endsAuthority c = true)
    (scheme rest more : List Char) (web : SchemeKind.ofScheme scheme = .web) :
    read scheme (rest ++ c :: more) =
      (read scheme rest).map fun found => (found.1, found.2 ++ c :: more) := by
  simp only [read]
  rw [web, takeWhile_stop _ _ (by simp [ends]), dropWhile_stop _ _ (by simp [ends])]
  have nowhere := splitHost_nowhere .web false rest
  generalize rest.takeWhile (!SchemeKind.web.endsAuthority ·) = named at *
  generalize rest.dropWhile (!SchemeKind.web.endsAuthority ·) = path at *
  generalize (atLastAt? named).getD ([], named) = parts at *
  obtain ⟨info, place⟩ := parts
  dsimp only at *
  rw [← List.append_assoc, splitHost_stop c ends]
  cases place with
  | nil =>
      rw [List.nil_append, nowhere]
      split <;> split <;> rfl
  | cons first place =>
      generalize splitHost .web false (first :: place ++ path) = parts
      obtain ⟨host, after⟩ := parts
      dsimp only
      rw [List.isEmpty_cons, Bool.and_false, Bool.false_and, Bool.false_and,
        if_neg Bool.false_ne_true, if_neg Bool.false_ne_true, hostOf_web host _ after,
        readPort_stop c ends]
      cases readHost : hostOf .web host after with
      | error fault => rfl
      | ok found =>
          cases readPort scheme after with
          | error fault => rfl
          | ok port =>
              obtain ⟨there, rfl⟩ := Option.isSome_iff_exists.mp (hostOf_some _ _ _ readHost)
              rfl

/-- A text that names a host holds at its end what stands behind the host and the port. -/
theorem read_found (scheme rest : List Char) (web : SchemeKind.ofScheme scheme = .web)
    (authority : Authority) (behind : List Char)
    (found : read scheme rest = .ok (authority, behind)) :
    behind <:+ rest ∧ ∃ host after, hostOf .web host after = .ok authority.host := by
  simp only [read] at found
  rw [web] at found
  have whole : rest = rest.takeWhile (!SchemeKind.web.endsAuthority ·) ++
    rest.dropWhile (!SchemeKind.web.endsAuthority ·) := List.takeWhile_append_dropWhile.symm
  generalize rest.takeWhile (!SchemeKind.web.endsAuthority ·) = named at *
  generalize rest.dropWhile (!SchemeKind.web.endsAuthority ·) = path at *
  have suffix := infoOf_suffix named
  generalize (atLastAt? named).getD ([], named) = parts at *
  obtain ⟨info, place⟩ := parts
  dsimp only at *
  split at found
  · cases found
  obtain ⟨host, readHost, found⟩ := (bind_ok _ _ _).mp found
  obtain ⟨⟨port, after⟩, portRead, found⟩ := (bind_ok _ _ _).mp found
  split at found
  · cases found
  cases found
  have inside : place ++ path <:+ rest := by
    obtain ⟨front, same⟩ := suffix
    refine ⟨front, ?_⟩
    rw [whole, ← same, List.append_assoc]
  exact ⟨((readPort_suffix _ _ _ _ portRead).trans (splitHost_suffix _ _ _)).trans inside, _, _,
    readHost⟩

/-- A slash behind a text that names a host stays behind it. -/
theorem read_slash (scheme rest more : List Char) (web : SchemeKind.ofScheme scheme = .web)
    (authority : Authority) (behind : List Char)
    (found : read scheme rest = .ok (authority, behind)) :
    read scheme (rest ++ '/' :: more) = .ok (authority, behind ++ '/' :: more) ∧
      behind <:+ rest ∧ authority.host.isSome = true := by
  obtain ⟨suffix, host, after, readHost⟩ := read_found scheme rest web authority behind found
  refine ⟨?_, suffix, hostOf_some _ _ _ readHost⟩
  rw [read_stop '/' (by decide) scheme rest more web, found]
  rfl

end Authority

-- The path

namespace Url

open UrlPath

/-- The segments that a path leaves to what follows one more slash, the last one first. A slash at
the start of a path is no part of a segment. -/
def segmentsBefore : List Char → List (List Char)
  | [] => []
  | c :: rest =>
      (segmentsOf (if SchemeKind.web.isSlash c then rest else c :: rest)).foldl afterSegment []

/-- What follows a path and a slash adds its segments to those that the path leaves. -/
theorem readPath_slash (path more : List Char) :
    readPath .web (path ++ '/' :: more) =
      .rooted (addSegments .web (segmentsBefore path) (segmentsOf more)) := by
  cases path with
  | nil => rfl
  | cons c rest =>
      have body (text : List Char) : readSegments .web (text ++ '/' :: more) =
          addSegments .web ((segmentsOf text).foldl afterSegment []) (segmentsOf more) := by
        rw [← addSegments_append _ _ _ (segmentsOf_some more), ← segmentsOf_slash]
        rfl
      rw [List.cons_append, readPath, segmentsBefore]
      cases SchemeKind.web.isSlash c with
      | true => exact congrArg UrlPath.rooted (body rest)
      | false => exact congrArg UrlPath.rooted (body (c :: rest))

/-- A text that does not end in a slash is, written as a path, what its segments are written as. -/
theorem stem_read (front : List Char) (last : Char)
    (plain : SchemeKind.web.isSlash last = false) :
    (UrlPath.rooted (readSegments .web (front ++ [last]))).stem =
      (rooted ((segmentsOf (front ++ [last])).foldl afterSegment []).reverse).text := by
  obtain ⟨segments, segment, ends, written, filled⟩ := segmentsOf_last front last plain
  have alone : readSegments .web (front ++ [last]) =
      addSegments .web [] (segmentsOf (front ++ [last])) := rfl
  rw [alone, written, addSegments_append _ _ _ (List.cons_ne_nil _ _), addSegments_last,
    List.foldl_append, List.foldl_cons, List.foldl_nil]
  cases dot : isDot (segment ++ [ends]) with
  | true => rw [if_pos rfl, stem_emptied]
  | false =>
      rw [if_neg Bool.false_ne_true, afterSegment_plain _ _ dot, List.reverse_cons]
      have single : (rooted [segment ++ [ends]]).text = '/' :: segment ++ [ends] := by
        simp [UrlPath.text]
      refine stem_filled _ ends ?_ filled
      rw [text_append, single, ← List.append_assoc, List.getLast?_concat]

/-- What a path leaves of itself when a slash and further segments follow it. -/
theorem readPath_stem (path : List Char)
    (ending : ∀ last, path.getLast? = some last → SchemeKind.web.isSlash last = false) :
    (readPath .web path).stem = (rooted (segmentsBefore path).reverse).text := by
  cases path with
  | nil => exact stem_emptied []
  | cons c rest =>
      rw [readPath, segmentsBefore]
      cases slash : SchemeKind.web.isSlash c with
      | false =>
          obtain ⟨front, last, split⟩ := (List.eq_nil_or_concat' (c :: rest)).resolve_left (by simp)
          rw [if_neg Bool.false_ne_true, split]
          exact stem_read front last (ending last (by rw [split, List.getLast?_concat]))
      | true =>
          have filled : rest ≠ [] := by
            rintro rfl
            rw [ending c rfl] at slash
            cases slash
          obtain ⟨front, last, rfl⟩ := (List.eq_nil_or_concat' rest).resolve_left filled
          rw [if_pos rfl]
          refine stem_read front last (ending last ?_)
          rw [← List.cons_append, List.getLast?_concat]

/-- The URL of a text behind a base, of which `before` are the segments, the last one first. -/
def below (base : Url) (before : List (List Char)) (tail : List Char) : Url :=
  let (query, fragment) := readTail .web (tail.dropWhile (!endsPath ·))
  { base with
    path := .rooted (addSegments .web before (segmentsOf (tail.takeWhile (!endsPath ·))))
    query
    fragment }

@[simp]
theorem below_scheme (base : Url) (before : List (List Char)) (tail : List Char) :
    (base.below before tail).scheme = base.scheme := rfl

@[simp]
theorem below_authority (base : Url) (before : List (List Char)) (tail : List Char) :
    (base.below before tail).authority = base.authority := rfl

theorem asked_authority (url : Url) (pairs : List (String × String)) :
    ((url.withPairs pairs).withoutEmptyQuery).authority = url.authority := rfl

theorem readTail_none (kind : SchemeKind) (text : List Char)
    (nothing : readTail kind (text.dropWhile (!endsPath ·)) = (none, none)) :
    ∀ c ∈ text, (!endsPath c) = true := by
  cases place : text.dropWhile (!endsPath ·) with
  | nil => exact List.dropWhile_eq_nil_iff.mp place
  | cons c rest =>
      exfalso
      have ends := List.head?_dropWhile_not (!endsPath ·) text
      rw [place, List.head?_cons] at ends
      have ends : c = '?' ∨ c = '#' := by simpa [endsPath, or_iff_not_imp_left] using ends
      rw [place] at nothing
      rcases ends with rfl | rfl
      · cases nothing
      · cases nothing

/-- A path and a slash behind a base only add segments, a query and a fragment. -/
theorem build_below (scheme : List Char) (authority : Option Authority)
    (web : SchemeKind.ofScheme scheme = .web) (path tail : List Char)
    (pathOnly : ∀ c ∈ path, (!endsPath c) = true) :
    build scheme authority (readPath .web) (path ++ '/' :: tail) =
      (build scheme authority (readPath .web) path).below (segmentsBefore path) tail := by
  have slashTaken : ('/' :: tail).takeWhile (!endsPath ·) = '/' :: tail.takeWhile (!endsPath ·) :=
    List.takeWhile_cons_of_pos (by decide)
  have slashDropped : ('/' :: tail).dropWhile (!endsPath ·) = tail.dropWhile (!endsPath ·) :=
    List.dropWhile_cons_of_pos (by decide)
  rw [build, build, below, List.takeWhile_append_of_pos pathOnly,
    List.dropWhile_append_of_pos pathOnly, slashTaken, slashDropped, readPath_slash, web]

-- Reading with text behind

def readPlace (scheme place more : List Char) : Except UrlFault Url :=
  (Authority.read scheme place).map fun found =>
    build scheme (some found.1) (readPath .web) (found.2 ++ more)

theorem readWeb_place (scheme rest gap : List Char) (web : SchemeKind.ofScheme scheme = .web)
    (named : (rest ++ gap).dropWhile (SchemeKind.web.isSlash ·) ≠ []) (more : List Char) :
    readWeb scheme (rest ++ (gap ++ '/' :: more)) =
      readPlace scheme ((rest ++ gap).dropWhile (SchemeKind.web.isSlash ·)) ('/' :: more) := by
  rw [← List.append_assoc, readWeb, List.dropWhile_append, if_neg (by simpa using named),
    readPlace]
  dsimp only
  rw [Authority.read_stop '/' (by decide) scheme _ more web]
  cases Authority.read scheme _ <;> rfl

theorem readPlace_ok (scheme place more : List Char) (url : Url) :
    readPlace scheme place more = .ok url ↔ ∃ authority behind,
      Authority.read scheme place = .ok (authority, behind) ∧
        build scheme (some authority) (readPath .web) (behind ++ more) = url := by
  rw [readPlace, map_ok, Prod.exists]

theorem build_bare (scheme : List Char) (authority : Option Authority)
    (path : List Char → UrlPath) (text : List Char) :
    (∀ c ∈ text, (!endsPath c) = true) ↔ (build scheme authority path text).query = none ∧
      (build scheme authority path text).fragment = none := by
  constructor
  · intro pathOnly
    rw [build, List.dropWhile_eq_nil_iff.mpr pathOnly]
    exact ⟨rfl, rfl⟩
  · rintro ⟨noQuery, noFragment⟩
    exact readTail_none _ text (Prod.ext noQuery noFragment)

/-- A slash behind a text with a scheme is read behind the place that the text names. -/
theorem read_behind (text : String) (gap scheme rest : List Char)
    (behind : ∀ more, trimmed (text.toList ++ '/' :: more) =
      trimmed text.toList ++ (gap ++ '/' :: endTrimmed more))
    (others : ∀ other, Scheme.read? (trimmed text.toList ++ other) = some (scheme, rest ++ other))
    (web : SchemeKind.ofScheme scheme = .web)
    (named : (rest ++ gap).dropWhile (SchemeKind.web.isSlash ·) ≠ []) (address : String)
    (tail : List Char) (written : address.toList = text.toList ++ '/' :: tail) :
    read address = readPlace scheme ((rest ++ gap).dropWhile (SchemeKind.web.isSlash ·))
      ('/' :: endTrimmed tail) := by
  rw [read, written, behind, others]
  change readScheme _ _ = _
  rw [readScheme, web]
  exact readWeb_place scheme rest gap web named _

/-- A text that is a web address names the same place when a slash follows it. Blanks stand between
the place and the slash if the text has them at its end. -/
theorem read_alone (text : String) (url : Url) (found : read text = .ok url)
    (carried : Client.carriedSchemes.contains url.scheme = true) :
    ∃ place gap, place <:+ trimmed text.toList ∧ readPlace url.scheme place [] = .ok url ∧
      (∀ c ∈ gap, isOuterBlank c = true) ∧
      ((∀ last, text.toList.getLast? = some last → isOuterBlank last = false) → gap = []) ∧
      ∀ address tail, address.toList = text.toList ++ '/' :: tail →
        read address = readPlace url.scheme (place ++ gap) ('/' :: endTrimmed tail) := by
  obtain ⟨gap, blank, visible, behind⟩ := trimmed_gap text.toList
  rw [read] at found
  split at found
  · cases found
  next scheme after schemed =>
  obtain rfl := readScheme_scheme scheme after url found
  have web := carried_web _ carried
  rw [readScheme, web] at found
  obtain ⟨rest, rfl, others⟩ := scheme_base _ [] .nothing _ after
    (by rw [List.append_nil, schemed])
  rw [List.append_nil] at found schemed
  -- Behind the slashes at its start the text names a host.
  have named : rest.dropWhile (SchemeKind.web.isSlash ·) ≠ [] := by
    intro nothing
    change readWeb _ _ = _ at found
    rw [readWeb_hostless _ rest web nothing] at found
    cases found
  have place : (rest ++ gap).dropWhile (SchemeKind.web.isSlash ·) =
      rest.dropWhile (SchemeKind.web.isSlash ·) ++ gap := by
    rw [List.dropWhile_append, if_neg (by simpa using named)]
  refine ⟨rest.dropWhile (SchemeKind.web.isSlash ·), gap, ?inside, ?alone, blank, visible, ?_⟩
  case inside =>
    obtain ⟨first, parts, whole, _⟩ := (scheme_read ..).mp schemed
    rw [whole]
    exact (List.dropWhile_suffix _).trans ((List.suffix_cons ':' rest).trans
      (List.suffix_append _ _))
  case alone =>
    obtain ⟨⟨authority, path⟩, readHost, same⟩ := (bind_ok _ _ _).mp found
    refine (readPlace_ok ..).mpr ⟨authority, path, readHost, ?_⟩
    rw [List.append_nil]
    exact Except.ok.inj same
  · intro address tail written
    rw [read_behind text gap _ rest behind others web (by simp [place, named]) address tail written,
      place]

-- Endpoints

theorem kept_visible (c : Char) (kept : keptInPath c = true) : isOuterBlank c = false := by
  rw [keptInPath, keptInFragment, isPlain, Bool.and_eq_true, Bool.and_eq_true,
    Bool.and_eq_true] at kept
  obtain ⟨⟨⟨least, _⟩, other⟩, _⟩ := kept
  cases blank : isOuterBlank c with
  | false => rfl
  | true =>
      have space : c = ' ' :=
        Char.le_antisymm (of_decide_eq_true blank) (of_decide_eq_true least)
      rw [space] at other
      cases other

theorem kept_open (c : Char) (kept : keptInPath c = true) : (!endsPath c) = true := by
  have question : c ≠ '?' := by
    rintro rfl
    cases kept
  have hash : c ≠ '#' := by
    rintro rfl
    cases kept
  simp [endsPath, question, hash]

/-- A path that is written as it is given. -/
structure Written (path : List Char) : Prop where
  kept : ∀ c ∈ path, keptInPath c = true ∧ c ≠ '\\'
  undotted : ∀ segment ∈ segmentsOf path, isDot segment = false

theorem segmentsOf_written (path : List Char) (written : Written path) :
    (rooted (segmentsOf path)).text = '/' :: path := by
  rw [text_joined _ (segmentsOf_some path), segmentsOf_slashed,
    slashed_same path fun c present => (written.kept c present).2,
    Form.joinWith_encoded keptInPath '/' (by decide),
    percentEncode_kept _ _ fun c present => (written.kept c present).1]

/-- Behind a base such a path adds its own segments and nothing else. -/
theorem below_segments (base : Url) (before : List (List Char)) (path : List Char)
    (written : Written path) :
    base.below before (endTrimmed path) =
      { base with
        path := .rooted (before.reverse ++ segmentsOf path)
        query := none
        fragment := none } := by
  have open' : ∀ c ∈ path, (!endsPath c) = true :=
    fun c present => kept_open c (written.kept c present).1
  rw [endTrimmed_visible path fun c present => kept_visible c (written.kept c present).1, below,
    List.takeWhile_eq_self_iff.mpr open', List.dropWhile_eq_nil_iff.mpr open',
    addSegments_undotted _ _ (segmentsOf_some path) written.undotted]
  rfl

/-- Behind a base such a path stands as it is, after one slash. -/
theorem below_path (base : Url) (before : List (List Char)) (path : List Char)
    (written : Written path) :
    (base.below before (endTrimmed path)).path.text =
      (rooted before.reverse).text ++ '/' :: path := by
  rw [below_segments base before path written, text_append, segmentsOf_written path written]

end Url

theorem ensure_ok (condition : Bool) :
    Client.ensure condition = .ok () ↔ condition = true := by
  cases condition <;> simp [Client.ensure]

/-- An address to which paths of endpoints can be added: one of a host that requests are carried to,
with no query or fragment, that ends neither in a slash or a backslash nor in a blank. -/
structure EndpointBase (text : String) (base : Url) : Prop where
  read : Url.read text = .ok base
  carried : Client.carriedSchemes.contains base.scheme = true
  noQuery : base.query = none
  noFragment : base.fragment = none
  ending : ∀ last, text.toList.getLast? = some last →
    SchemeKind.web.isSlash last = false ∧ Url.isOuterBlank last = false

/-- Such an address that names no user. -/
structure PlainBase (text : String) (base : Url) : Prop extends EndpointBase text base where
  unnamed : base.authority.any Authority.hasUserInfo = false

theorem last_of_suffix {text part : List Char} {last c : Char} (inside : part <:+ text ++ [last])
    (ends : part.getLast? = some c) : c = last := by
  obtain ⟨front, whole⟩ := inside
  have same := congrArg List.getLast? whole
  rw [List.getLast?_append, ends, List.getLast?_concat] at same
  exact Option.some.inj same

namespace EndpointBase

variable {text : String} {base : Url}

theorem last_plain (plain : EndpointBase text base) : ∃ front last, text.toList = front ++ [last] ∧
    SchemeKind.web.isSlash last = false ∧ Url.isOuterBlank last = false := by
  rcases List.eq_nil_or_concat' text.toList with nothing | ⟨front, last, split⟩
  · have readBase := plain.read
    rw [Url.read, nothing] at readBase
    cases readBase
  · exact ⟨front, last, split, plain.ending last (by rw [split, List.getLast?_concat])⟩

/-- What is behind such a base and a slash only adds segments, a query and a fragment. -/
theorem read_below (plain : EndpointBase text base) :
    base.host?.isSome = true ∧ ∃ before,
      base.path.stem = (UrlPath.rooted before.reverse).text ∧
        ∀ address tail, address.toList = text.toList ++ '/' :: tail →
          Url.read address = .ok (base.below before (Url.endTrimmed tail)) := by
  obtain ⟨front, last, split, slash, visible⟩ := plain.last_plain
  obtain ⟨place, gap, inside, alone, _, ending, addresses⟩ :=
    Url.read_alone text base plain.read plain.carried
  obtain rfl := ending fun last ends => (plain.ending last ends).2
  rw [List.append_nil] at addresses
  obtain ⟨authority, behind, readHost, built⟩ := (Url.readPlace_ok ..).mp alone
  rw [List.append_nil] at built
  have web := carried_web _ plain.carried
  have pathOnly := (Url.build_bare base.scheme (some authority) (Url.readPath .web) behind).mpr
    (by rw [built]; exact ⟨plain.noQuery, plain.noFragment⟩)
  obtain ⟨_, suffix, hosted⟩ := Authority.read_slash _ place [] web authority behind readHost
  have stem := Url.readPath_stem behind fun c ends => by
    obtain ⟨start, trimmed, _⟩ := Url.trimmed_behind front last '/' visible (by decide)
    rw [split, trimmed] at inside
    rw [last_of_suffix (suffix.trans inside) ends]
    exact slash
  refine ⟨?_, Url.segmentsBefore behind, ?_, fun address tail written => ?_⟩
  · rw [← built]
    exact hosted
  · rw [← stem, ← built, Url.build, List.takeWhile_eq_self_iff.mpr pathOnly]
  · rw [addresses address tail written, Url.readPlace_ok]
    refine ⟨authority, behind, readHost, ?_⟩
    rw [Url.build_below _ _ web behind _ pathOnly, built]

/-- Slashes behind such a base are dropped; what is left is the base of the client. -/
theorem made (plain : EndpointBase text base) (settings : ClientSettings) (slashes : Nat)
    (given : settings.baseUrl = text ++ String.ofList (List.replicate slashes '/')) :
    Client.ofSettings settings = .ok ⟨text, settings.platform⟩ := by
  have written : settings.baseUrl.toList = text.toList ++ List.replicate slashes '/' := by
    rw [given, String.toList_append, String.toList_ofList]
  have kept : Client.withoutEndSlashes settings.baseUrl = text := by
    obtain ⟨front, last, split, slash, _⟩ := plain.last_plain
    have other : (last == '/') = false := by
      cases same : last == '/' with
      | false => rfl
      | true =>
          rw [beq_iff_eq.mp same] at slash
          cases slash
    rw [Client.withoutEndSlashes, written, split, List.reverse_append, List.reverse_replicate,
      List.dropWhile_append_of_pos fun c present => by simp [List.eq_of_mem_replicate present],
      List.reverse_concat, List.dropWhile_cons_of_neg (by simp [other]), ← List.reverse_concat,
      List.reverse_reverse, ← split, String.ofList_toList]
  have readable : ∃ url, Url.read settings.baseUrl = .ok url := by
    cases slashes with
    | zero =>
        rw [given]
        exact ⟨base, by simpa using plain.read⟩
    | succ more =>
        obtain ⟨_, before, _, below⟩ := plain.read_below
        exact ⟨_, below settings.baseUrl (List.replicate more '/') written⟩
  obtain ⟨url, read⟩ := readable
  rw [Client.ofSettings, read, kept]

/-- The URL of what is asked for is the base with the segments of the endpoint and the pairs. -/
theorem urlOf_below (plain : EndpointBase text base) (client : Client)
    (based : client.baseUrl = text) :
    ∃ before, base.path.stem = (UrlPath.rooted before.reverse).text ∧ ∀ ask : Ask,
      client.urlOf ask = .ok (((base.below before (Url.endTrimmed
        (Client.withoutStartSlashes ask.path).toList)).withPairs ask.query).withoutEmptyQuery) := by
  obtain ⟨hosted, before, stem, below⟩ := plain.read_below
  refine ⟨before, stem, fun ask => ?_⟩
  have read := below (client.address ask.path) (Client.withoutStartSlashes ask.path).toList
    (by simp [Client.address, based])
  generalize there : base.below before (Url.endTrimmed _) = url at read ⊢
  have reached : Client.ensure (url.host?.isSome && Client.carriedSchemes.contains url.scheme) =
      .ok () := by
    rw [← there, Url.host?, Url.below_authority, Url.below_scheme, ← Url.host?, hosted,
      plain.carried]
    rfl
  rw [Client.urlOf, read]
  exact (bind_ok _ _ _).mpr ⟨url, rfl, (bind_ok _ _ _).mpr ⟨(), reached, rfl⟩⟩

end EndpointBase

-- What is sent

/-- The URL that is sent for a URL. A user and a password are sent in a header instead. -/
def Url.shown (url : Url) : Url :=
  if (url.authority.bind Authority.credentials?).isSome then url.withoutUserInfo else url

@[simp]
theorem Url.shown_host (url : Url) : url.shown.host? = url.host? := by
  rw [Url.shown]
  split
  · rw [Url.withoutUserInfo, Url.host?, Url.host?]
    cases url.authority <;> rfl
  · rfl

@[simp]
theorem Url.shown_path (url : Url) : url.shown.path = url.path := by
  rw [Url.shown]
  split <;> rfl

@[simp]
theorem Url.shown_query (url : Url) : url.shown.query = url.query := by
  rw [Url.shown]
  split <;> rfl

theorem shown_without_user (url : Url)
    (unnamed : url.authority.any Authority.hasUserInfo = false) : url.shown = url := by
  have own := own_without_user url unnamed
  rw [Url.ownAuthorizations, Option.toList_eq_nil_iff] at own
  rw [Url.shown, own]
  rfl

theorem carriesHost_congr (url other : Url) (same : url.host? = other.host?) :
    Client.carriesHost url = Client.carriesHost other := by
  rw [Client.carriesHost, Client.carriesHost, same]

/-- A request is built if the header may be sent, its URL is not too long and its host has only the
characters of hosts in requests. -/
theorem request_iff (client : Client) (ask : Ask) (url : Url)
    (located : client.urlOf ask = .ok url) (header : Option String) (request : Request) :
    client.request ask header = .ok request ↔
      request.url = url.shown ∧ request.method = ask.method ∧ request.body = ask.body ∧
        request.authorizations = url.ownAuthorizations ++ header.toList ∧
        header.all isHeaderValue = true ∧ Client.carriesHost request.url = true ∧
        request.url.chars.length ≤ Client.longestAddress := by
  rw [Client.request, bind_ok]
  constructor
  · rintro ⟨held, same, rest⟩
    obtain rfl := Except.ok.inj (located.symm.trans same)
    obtain ⟨_, legal, rest⟩ := (bind_ok _ _ _).mp rest
    obtain ⟨_, fits, same⟩ := (bind_ok _ _ _).mp rest
    obtain ⟨hosted, short⟩ := Bool.and_eq_true_iff.mp ((ensure_ok _).mp fits)
    cases same
    exact ⟨rfl, rfl, rfl, rfl, (ensure_ok _).mp legal, hosted, of_decide_eq_true short⟩
  · rintro ⟨same, method, body, authorizations, legal, hosted, short⟩
    refine ⟨_, located, (bind_ok _ _ _).mpr ⟨(), (ensure_ok _).mpr legal, ?_⟩⟩
    cases request
    cases same
    cases method
    cases body
    cases authorizations
    have fits := Bool.and_eq_true_iff.mpr ⟨hosted, decide_eq_true short⟩
    exact (bind_ok _ _ _).mpr ⟨(), (ensure_ok _).mpr fits, rfl⟩

end Entitlement
