import Entitlement.Proofs.Continuation

/-!
Texts put together from texts. The text of a list is made of the texts of its items and the text of
an object of those of its members, with commas between them. A value is read from its text wherever
this stands, so what the whole spells is known from what the parts spell.
-/

namespace Entitlement.Json

open Text

variable {depth : Nat}

-- Texts of values

namespace Document

/-- The text is that of one value, with nothing but blanks around it. -/
structure Alone (text : List Piece) (document : Document) : Prop where
  read : ∃ blank, Document.read text = (document, blank) ∧ skipBlank blank = []
  sound : ∃ depth tree, document.whole depth = .ok tree

def Names (text : List Piece) (key : String) : Prop :=
  ∃ quoted colon, skipBlank text = .char '\x22' :: quoted ∧ skipText quoted = .ok colon ∧
    skipBlank colon = [.char ':'] ∧ textOf quoted = .ok key

def AloneMember (text : List Piece) (member : Except Fault String × Document) : Prop :=
  ∃ front value key, text = front ++ value ∧ Names front key ∧ member.1 = .ok key ∧
    Alone value member.2

/-- The text is that of a value whose lists and objects can be entered with the depth that is
left. -/
def Spells (depth : Nat) (text : List Piece) (tree : Tree) : Prop :=
  ∃ document, Alone text document ∧ document.whole depth = .ok tree

def SpellsMember (depth : Nat) (text : List Piece) (member : String × Tree) : Prop :=
  ∃ read, AloneMember text read ∧ read.1 = .ok member.1 ∧ read.2.whole depth = .ok member.2

end Document

def commas : List (List Piece) → List Piece
  | [] => []
  | [text] => text
  | text :: next :: texts => text ++ .char ',' :: commas (next :: texts)

def inBrackets (items : List (List Piece)) : List Piece :=
  .char '[' :: (commas items ++ [.char ']'])

def inBraces (members : List (List Piece)) : List Piece :=
  .char '\x7b' :: (commas members ++ [.char '\x7d'])

theorem commas_begin (text : List Piece) (texts : List (List Piece)) :
    ∃ more, commas (text :: texts) = text ++ more := by
  cases texts with
  | nil => exact ⟨[], (List.append_nil text).symm⟩
  | cons next texts => exact ⟨_, rfl⟩

theorem apart_char (c : Char) (rest : List Piece)
    (other : c.isDigit = false ∧ c ≠ '.' ∧ c ≠ 'e' ∧ c ≠ 'E') : Apart (.char c :: rest) := by
  rintro _ _ ⟨⟩
  exact other

theorem apart_blank (blank : List Piece) (nothing : skipBlank blank = []) : Apart blank := by
  rintro c more rfl
  have isBlank : isBlank c = true := by
    by_contra visible
    rw [skipBlank, if_neg visible] at nothing
    cases nothing
  refine ⟨?_, ?_, ?_, ?_⟩
  · by_contra digit
    simp only [Json.isBlank, Bool.or_eq_true, decide_eq_true_eq] at isBlank
    rcases isBlank with ((rfl | rfl) | rfl) | rfl <;> exact digit (by decide)
  all_goals
    rintro rfl
    cases isBlank

namespace Document

theorem readValue_skipped (fuel : Nat) (pieces : List Piece) :
    readValue fuel (skipBlank pieces) = readValue fuel pieces := by
  cases fuel with
  | zero => rfl
  | succ fuel => rw [readValue, readValue, skipBlank_again]

theorem readItems_skipped (fuel : Nat) (pieces : List Piece) :
    readItems fuel (skipBlank pieces) = readItems fuel pieces := by
  cases fuel with
  | zero => rfl
  | succ fuel => rw [readItems, readItems, readValue_skipped]

section Alone

variable {text : List Piece} {document : Document}

/-- The text of a value is read as far as it goes, whatever follows that is no numeral. -/
theorem Alone.behind (alone : Alone text document) (fuel : Nat)
    (enough : 2 * text.length + 2 ≤ fuel) (rest : List Piece) (apart : Apart rest) :
    ∃ behind, readValue fuel (text ++ rest) = (document, behind) ∧
      skipBlank behind = skipBlank rest := by
  obtain ⟨⟨blank, read, ends⟩, depth, tree, whole⟩ := alone
  exact ⟨blank ++ rest, readValue_behind _ fuel enough text blank document read depth tree whole
    rest apart, skipBlank_through rest ends⟩

/-- The text of a value is not empty and does not end a list. -/
theorem Alone.begins (alone : Alone text document) (rest : List Piece) :
    ∃ piece more, skipBlank (text ++ rest) = piece :: more ∧ piece ≠ .char ']' := by
  obtain ⟨⟨blank, read, _⟩, depth, tree, whole⟩ := alone
  have takes := takes_of_read _ document depth tree read whole
  have visible : ∃ piece more, skipBlank text = piece :: more ∧ piece ≠ .char ']' := by
    generalize skipBlank text = visible at takes
    cases takes with
    | numeral c tail after numeral value digit read has =>
        refine ⟨_, _, rfl, ?_⟩
        rintro ⟨⟩
        revert digit
        decide
    | _ => exact ⟨_, _, rfl, by decide⟩
  obtain ⟨piece, more, skipped, other⟩ := visible
  exact ⟨piece, more ++ rest, skipBlank_behind rest skipped, other⟩

theorem Alone.spaced (alone : Alone text document) (before after : List Piece)
    (blank : skipBlank before = []) (alsoBlank : skipBlank after = []) :
    Alone (before ++ text ++ after) document := by
  refine ⟨?_, alone.sound⟩
  obtain ⟨behind, read, ends⟩ := alone.behind
    (2 * (before ++ text ++ after).length + 2) (by simp only [List.length_append]; omega) after
    (apart_blank after alsoBlank)
  refine ⟨behind, ?_, ends.trans alsoBlank⟩
  rw [Document.read, ← readValue_skipped, List.append_assoc, skipBlank_through _ blank,
    readValue_skipped, ← List.append_assoc]
  exact read

end Alone

/-- Items are read one after the other. -/
theorem readItems_commas (text : List Piece) (texts : List (List Piece)) (document : Document)
    (documents : List Document) (fuel : Nat)
    (each : List.Forall₂ Alone (text :: texts) (document :: documents))
    (enough : 2 * (commas (text :: texts)).length + 3 ≤ fuel) (rest : List Piece) :
    readItems fuel (commas (text :: texts) ++ .char ']' :: rest) =
      (document :: documents, .closed, rest) := by
  induction texts generalizing text document documents fuel with
  | nil =>
      cases each with
      | cons alone none =>
          cases none
          match fuel, enough with
          | fuel + 1, enough =>
              rw [commas] at enough ⊢
              obtain ⟨behind, read, ends⟩ := alone.behind fuel (by omega) (.char ']' :: rest)
                (apart_char ']' rest (by decide))
              refine (takesItems_iff fuel _).mpr (.last document behind rest read ?_)
              rw [ends, skipBlank_visible ']' rest (by decide)]
  | cons next texts ih =>
      cases each with
      | @cons _ _ _ documents alone each =>
          cases each with
          | @cons _ other _ documents first each =>
              match fuel, enough with
              | fuel + 1, enough =>
                  rw [commas, List.length_append, List.length_cons] at enough
                  rw [commas, List.append_assoc, List.cons_append]
                  obtain ⟨behind, read, ends⟩ := alone.behind fuel (by omega)
                    (.char ',' :: (commas (next :: texts) ++ .char ']' :: rest))
                    (apart_char ',' _ (by decide))
                  obtain ⟨more, starts⟩ := commas_begin next texts
                  obtain ⟨piece, inside, begins, notEnd⟩ := first.begins (more ++ .char ']' :: rest)
                  rw [← List.append_assoc, ← starts] at begins
                  have others := ih next other documents fuel (.cons first each) (by omega)
                  rw [← readItems_skipped, begins] at others
                  refine (takesItems_iff fuel _).mpr (.more document _ behind _ piece inside rest
                    read ?_ begins notEnd others)
                  rw [ends, skipBlank_visible ',' _ (by decide)]

/-- The text of a member is read as far as it goes: its key, the colon and the value. -/
theorem AloneMember.behind {text : List Piece} {member : Except Fault String × Document}
    (alone : AloneMember text member) (fuel : Nat) (enough : 2 * text.length + 2 ≤ fuel)
    (rest : List Piece) (apart : Apart rest) :
    ∃ quoted colon tail behind, skipBlank (text ++ rest) = .char '\x22' :: quoted ∧
      skipText quoted = .ok colon ∧ skipBlank colon = .char ':' :: tail ∧
      textOf quoted = member.1 ∧ readValue fuel tail = (member.2, behind) ∧
      skipBlank behind = skipBlank rest := by
  obtain ⟨front, value, key, rfl, ⟨quoted, colon, starts, skipped, named, held⟩, same, alone⟩ :=
    alone
  rw [List.length_append] at enough
  obtain ⟨behind, read, ends⟩ := alone.behind fuel (by omega) rest apart
  refine ⟨quoted ++ (value ++ rest), colon ++ (value ++ rest), value ++ rest, behind, ?_,
    skipText_behind _ skipped, skipBlank_behind _ named, ?_, read, ends⟩
  · rw [List.append_assoc]
    exact skipBlank_behind _ starts
  · rw [same]
    exact textOf_behind _ held

/-- Members are read one after the other. -/
theorem readMembers_commas (text : List Piece) (texts : List (List Piece))
    (member : Except Fault String × Document)
    (members : List (Except Fault String × Document)) (fuel : Nat)
    (each : List.Forall₂ AloneMember (text :: texts) (member :: members))
    (enough : 2 * (commas (text :: texts)).length + 3 ≤ fuel) (rest : List Piece) :
    ∃ key, skipBlank (commas (text :: texts) ++ .char '\x7d' :: rest) = .char '\x22' :: key ∧
      readMembers fuel key = (member :: members, .closed, rest) := by
  induction texts generalizing text member members fuel with
  | nil =>
      cases each with
      | cons alone none =>
          cases none
          match fuel, enough with
          | fuel + 1, enough =>
              rw [commas] at enough ⊢
              obtain ⟨quoted, colon, tail, behind, starts, skipped, named, held, read, ends⟩ :=
                alone.behind fuel (by omega) (.char '\x7d' :: rest)
                  (apart_char '\x7d' rest (by decide))
              have last : TakesMembers fuel quoted [(textOf quoted, member.2)] rest :=
                .last member.2 colon tail behind rest skipped named read
                  (by rw [ends, skipBlank_visible '\x7d' rest (by decide)])
              rw [held] at last
              exact ⟨quoted, starts, (takesMembers_iff fuel _).mpr last⟩
  | cons next texts ih =>
      cases each with
      | @cons _ _ _ members alone each =>
          cases each with
          | @cons _ other _ members first each =>
              match fuel, enough with
              | fuel + 1, enough =>
                  rw [commas, List.length_append, List.length_cons] at enough
                  rw [commas, List.append_assoc, List.cons_append]
                  obtain ⟨key, begins, others⟩ :=
                    ih next other members fuel (.cons first each) (by omega)
                  obtain ⟨quoted, colon, tail, behind, starts, skipped, named, held, read, ends⟩ :=
                    alone.behind fuel (by omega)
                      (.char ',' :: (commas (next :: texts) ++ .char '\x7d' :: rest))
                      (apart_char ',' _ (by decide))
                  have more : TakesMembers fuel quoted
                      ((textOf quoted, member.2) :: other :: members) rest :=
                    .more member.2 (other :: members) colon tail behind _ key rest skipped named
                      read (by rw [ends, skipBlank_visible ',' _ (by decide)]) begins others
                  rw [held] at more
                  exact ⟨quoted, starts, (takesMembers_iff fuel _).mpr more⟩

theorem read_brackets (texts : List (List Piece)) (documents : List Document)
    (each : List.Forall₂ Alone texts documents) :
    read (inBrackets texts) = (.list documents .closed, []) := by
  have visible : skipBlank (inBrackets texts) = inBrackets texts :=
    skipBlank_visible '[' _ (by decide)
  refine Takes.read ?_
  rw [visible]
  cases each with
  | nil => exact .noItems _ [] rfl
  | @cons text document texts documents first others =>
      obtain ⟨more, starts⟩ := commas_begin text texts
      obtain ⟨piece, inside, begins, other⟩ := first.begins (more ++ [.char ']'])
      rw [← List.append_assoc, ← starts] at begins
      refine .items _ [] piece inside _ begins other ?_
      rw [← begins, readItems_skipped]
      refine readItems_commas text texts document documents _ (.cons first others) ?_ []
      rw [inBrackets, List.length_cons, List.length_append]
      omega

theorem read_braces (texts : List (List Piece))
    (members : List (Except Fault String × Document))
    (each : List.Forall₂ AloneMember texts members) :
    read (inBraces texts) = (.object members .closed, []) := by
  have visible : skipBlank (inBraces texts) = inBraces texts :=
    skipBlank_visible '\x7b' _ (by decide)
  refine Takes.read ?_
  rw [visible]
  cases each with
  | nil => exact .noMembers _ [] rfl
  | @cons text member texts members first others =>
      obtain ⟨key, begins, read⟩ := readMembers_commas text texts member members
        (2 * (inBraces (text :: texts)).length + 1) (.cons first others)
        (by rw [inBraces, List.length_cons, List.length_append]; omega) []
      exact .members _ [] key _ begins read

end Document

-- What texts spell

open Document

theorem spells_value {text : List Piece} {tree : Tree} (spells : Spells depth text tree) :
    ∃ document, Alone text document := by
  obtain ⟨document, alone, _⟩ := spells
  exact ⟨document, alone⟩

theorem spells_read {text : List Piece} {document : Document} {tree : Tree}
    (read : ∃ blank, Document.read text = (document, blank) ∧ skipBlank blank = []) :
    Spells depth text tree ↔ document.whole depth = .ok tree := by
  constructor
  · rintro ⟨other, ⟨also, _⟩, whole⟩
    obtain ⟨blank, taken, _⟩ := read
    obtain ⟨alsoBlank, alsoTaken, _⟩ := also
    cases taken.symm.trans alsoTaken
    exact whole
  · exact fun whole => ⟨document, ⟨read, depth, tree, whole⟩, whole⟩

/-- The text of a list is made of the texts of its items. -/
theorem spells_items (texts : List (List Piece))
    (values : ∀ text ∈ texts, ∃ document, Alone text document) (tree : Tree)
    (spells : Spells depth (inBrackets texts) tree) :
    ∃ inner trees, enter depth = .ok inner ∧ tree = .list trees ∧
      List.Forall₂ (Spells inner) texts trees := by
  obtain ⟨documents, each⟩ := forall₂_choose texts values
  have whole := (spells_read ⟨[], read_brackets texts documents each, rfl⟩).mp spells
  cases whole_level depth _ tree whole with
  | list inner _ trees entered wholes =>
      exact ⟨inner, trees, entered, rfl, forall₂_through each.flip wholes
        fun document text tree alone whole => ⟨document, alone, whole⟩⟩

theorem spells_brackets (inner : Nat) (texts : List (List Piece)) (trees : List Tree)
    (entered : enter depth = .ok inner) (spells : List.Forall₂ (Spells inner) texts trees) :
    Spells depth (inBrackets texts) (.list trees) := by
  obtain ⟨documents, each, wholes⟩ := forall₂_between texts trees spells
  exact (spells_read ⟨[], read_brackets texts documents each, rfl⟩).mpr
    (Level.list inner documents trees entered wholes).whole

/-- The text of an object is made of the texts of its members. -/
theorem spells_members (texts : List (List Piece))
    (members : ∀ text ∈ texts, ∃ member, AloneMember text member) (tree : Tree)
    (spells : Spells depth (inBraces texts) tree) :
    ∃ inner trees, enter depth = .ok inner ∧ tree = .object trees ∧
      List.Forall₂ (SpellsMember inner) texts trees := by
  obtain ⟨documents, each⟩ := forall₂_choose texts members
  have whole := (spells_read ⟨[], read_braces texts documents each, rfl⟩).mp spells
  cases whole_level depth _ tree whole with
  | object inner _ trees entered wholes =>
      exact ⟨inner, trees, entered, rfl, forall₂_through each.flip wholes
        fun document text tree alone whole => ⟨document, alone, whole⟩⟩

theorem spells_braces (inner : Nat) (texts : List (List Piece)) (trees : List (String × Tree))
    (entered : enter depth = .ok inner) (spells : List.Forall₂ (SpellsMember inner) texts trees) :
    Spells depth (inBraces texts) (.object trees) := by
  obtain ⟨documents, each, wholes⟩ := forall₂_between texts trees spells
  exact (spells_read ⟨[], read_braces texts documents each, rfl⟩).mpr
    (Level.object inner documents trees entered wholes).whole

theorem Document.AloneMember.same {text : List Piece}
    {member other : Except Fault String × Document} (alone : AloneMember text member)
    (also : AloneMember text other) : member = other := by
  obtain ⟨quoted, colon, tail, behind, starts, skipped, named, held, read, _⟩ :=
    alone.behind _ (Nat.le_refl _) [] nofun
  obtain ⟨_, _, _, _, alsoStarts, alsoSkipped, alsoNamed, alsoHeld, alsoRead, _⟩ :=
    also.behind _ (Nat.le_refl _) [] nofun
  cases starts.symm.trans alsoStarts
  cases skipped.symm.trans alsoSkipped
  cases named.symm.trans alsoNamed
  exact Prod.ext (held.symm.trans alsoHeld) (congrArg Prod.fst (read.symm.trans alsoRead))

/-- The text of a member behind its key is that of the value. -/
theorem spells_member (front value : List Piece) (key : String) (named : Names front key)
    (single : ∃ document, Alone value document) (member : String × Tree) :
    SpellsMember depth (front ++ value) member ↔ member.1 = key ∧ Spells depth value member.2 := by
  obtain ⟨document, alone⟩ := single
  constructor
  · rintro ⟨read, also, same, whole⟩
    have member : AloneMember (front ++ value) (.ok key, document) :=
      ⟨front, value, key, rfl, named, rfl, alone⟩
    obtain rfl := also.same member
    exact ⟨(Except.ok.inj same).symm, document, alone, whole⟩
  · rintro ⟨rfl, document, alone, whole⟩
    exact ⟨(.ok member.1, document), ⟨front, value, _, rfl, named, rfl, alone⟩, rfl, whole⟩

theorem spells_spaced (before text after : List Piece) (single : ∃ document, Alone text document)
    (blank : skipBlank before = []) (alsoBlank : skipBlank after = []) (tree : Tree) :
    Spells depth (before ++ text ++ after) tree ↔ Spells depth text tree := by
  obtain ⟨document, alone⟩ := single
  exact (spells_read (alone.spaced before after blank alsoBlank).read).trans
    (spells_read alone.read).symm

end Entitlement.Json
