import Entitlement.Json.Document
import Entitlement.Proofs.Results

/-!
Reading a text with more text behind it. A value that is read from a text is read from the longer
text as well, and what was left of the text is left with the rest behind it, unless the rest goes
on with a numeral that the text ends in.
-/

namespace Entitlement.Json

open Text

variable {pieces after rest : List Piece}

-- Blanks

theorem skipBlank_visible (c : Char) (rest : List Piece) (visible : isBlank c = false) :
    skipBlank (.char c :: rest) = .char c :: rest := by
  rw [skipBlank, visible]
  rfl

theorem skipBlank_blanks (blanks : List Char) (blank : ∀ c ∈ blanks, isBlank c = true)
    (rest : List Piece) : skipBlank (blanks.map .char ++ rest) = skipBlank rest := by
  induction blanks with
  | nil => rfl
  | cons c more ih =>
      obtain ⟨first, others⟩ := List.forall_mem_cons.mp blank
      rw [List.map_cons, List.cons_append, skipBlank, if_pos first]
      exact ih others

theorem skipBlank_behind (rest : List Piece) {piece : Piece} {more : List Piece}
    (skipped : skipBlank pieces = piece :: more) :
    skipBlank (pieces ++ rest) = piece :: (more ++ rest) := by
  induction pieces with
  | nil => cases skipped
  | cons head tail ih =>
      cases head with
      | damage width =>
          cases skipped
          rfl
      | char c =>
          rw [skipBlank] at skipped
          rw [List.cons_append, skipBlank]
          by_cases blank : isBlank c = true
          · rw [if_pos blank] at skipped ⊢
            exact ih skipped
          · rw [if_neg blank] at skipped ⊢
            cases skipped
            rfl

theorem skipBlank_through (rest : List Piece) (blank : skipBlank pieces = []) :
    skipBlank (pieces ++ rest) = skipBlank rest := by
  induction pieces with
  | nil => rfl
  | cons head tail ih =>
      cases head with
      | damage width => cases blank
      | char c =>
          rw [skipBlank] at blank
          rw [List.cons_append, skipBlank]
          by_cases isBlank : isBlank c = true
          · rw [if_pos isBlank] at blank ⊢
            exact ih blank
          · rw [if_neg isBlank] at blank
            cases blank

theorem skipBlank_again (pieces : List Piece) :
    skipBlank (skipBlank pieces) = skipBlank pieces := by
  induction pieces with
  | nil => rfl
  | cons head tail ih =>
      cases head with
      | damage width => rfl
      | char c =>
          rw [skipBlank]
          by_cases blank : isBlank c = true
          · rw [if_pos blank]
            exact ih
          · rw [if_neg blank, skipBlank, if_neg blank]

-- Words

theorem readWord_behind (rest : List Piece) (word : List Char)
    (read : readWord word pieces = .ok after) :
    readWord word (pieces ++ rest) = .ok (after ++ rest) := by
  induction word generalizing pieces with
  | nil =>
      cases read
      rfl
  | cons wanted more ih =>
      cases pieces with
      | nil => cases read
      | cons piece tail =>
          rw [readWord] at read
          rw [List.cons_append, readWord]
          by_cases same : piece = .char wanted
          · rw [if_pos same] at read ⊢
            exact ih read
          · rw [if_neg same] at read
            cases read

-- Numerals

/-- A text that does not go on with a numeral. -/
def Apart (rest : List Piece) : Prop :=
  ∀ c more, rest = .char c :: more → c.isDigit = false ∧ c ≠ '.' ∧ c ≠ 'e' ∧ c ≠ 'E'

theorem takeDigits_apart (apart : Apart rest) : takeDigits rest = ([], rest) := by
  cases rest with
  | nil => rfl
  | cons piece more =>
      cases piece with
      | damage width => rfl
      | char c =>
          obtain ⟨other, _⟩ := apart c more rfl
          simp [takeDigits, digit?, other]

theorem takeDigits_behind (apart : Apart rest) (pieces : List Piece) :
    takeDigits (pieces ++ rest) = ((takeDigits pieces).1, (takeDigits pieces).2 ++ rest) := by
  induction pieces with
  | nil => exact takeDigits_apart apart
  | cons piece more ih =>
      rw [List.cons_append, takeDigits, takeDigits]
      cases digit? piece with
      | none => rfl
      | some digit => simp only [ih]

theorem wholePart_behind (apart : Apart rest) {digits : List Nat}
    (read : wholePart pieces = .ok (digits, after)) :
    wholePart (pieces ++ rest) = .ok (digits, after ++ rest) := by
  rw [wholePart] at read ⊢
  rw [takeDigits_behind apart]
  generalize takeDigits pieces = taken at read
  obtain ⟨taken, left⟩ := taken
  match taken with
  | [] => cases read
  | [digit] =>
      cases read
      rfl
  | 0 :: _ :: _ => cases read
  | (_ + 1) :: _ :: _ =>
      cases read
      rfl

theorem fractionPart_none (pieces : List Piece) (other : ∀ more, pieces ≠ .char '.' :: more) :
    fractionPart pieces = .ok (none, pieces) := by
  rw [fractionPart.eq_def]
  split
  · exact absurd rfl (other _)
  · rfl

theorem exponentPart_none (pieces : List Piece)
    (other : ∀ more, pieces ≠ .char 'e' :: more ∧ pieces ≠ .char 'E' :: more) :
    exponentPart pieces = .ok (none, pieces) := by
  rw [exponentPart.eq_def]
  split
  · exact absurd rfl (other _).1
  · exact absurd rfl (other _).2
  · rfl

theorem fractionPart_behind (apart : Apart rest) {digits : Option (List Nat)}
    (read : fractionPart pieces = .ok (digits, after)) :
    fractionPart (pieces ++ rest) = .ok (digits, after ++ rest) := by
  by_cases point : ∃ more, pieces = .char '.' :: more
  · obtain ⟨more, rfl⟩ := point
    rw [fractionPart] at read
    rw [List.cons_append, fractionPart, takeDigits_behind apart]
    generalize takeDigits more = taken at read
    obtain ⟨taken, left⟩ := taken
    cases taken with
    | nil => cases read
    | cons digit others =>
        cases read
        rfl
  · have other : ∀ more, pieces ≠ .char '.' :: more := fun more same => point ⟨more, same⟩
    rw [fractionPart_none pieces other] at read
    cases read
    refine fractionPart_none _ fun more same => ?_
    cases pieces with
    | nil => exact (apart '.' more same).2.1 rfl
    | cons piece tail =>
        cases same
        exact other tail rfl

theorem exponentSign_behind (rest : List Piece) (piece : Piece) (more : List Piece) :
    exponentSign (piece :: more ++ rest) =
      ((exponentSign (piece :: more)).1, (exponentSign (piece :: more)).2 ++ rest) := by
  cases piece with
  | damage width => rfl
  | char c =>
      by_cases plus : c = '+'
      · subst plus
        rfl
      by_cases minus : c = '-'
      · subst minus
        rfl
      simp [exponentSign, plus, minus]

theorem exponentDigits_behind (apart : Apart rest) {digits : Option (Bool × List Nat)}
    (read : exponentDigits pieces = .ok (digits, after)) :
    exponentDigits (pieces ++ rest) = .ok (digits, after ++ rest) := by
  cases pieces with
  | nil => cases read
  | cons piece more =>
      rw [exponentDigits] at read ⊢
      rw [exponentSign_behind]
      generalize exponentSign (piece :: more) = signed at read ⊢
      obtain ⟨negative, unsigned⟩ := signed
      simp only [takeDigits_behind apart] at read ⊢
      generalize takeDigits unsigned = taken at read
      obtain ⟨taken, left⟩ := taken
      cases taken with
      | nil => cases read
      | cons digit others =>
          cases read
          rfl

theorem exponentPart_behind (apart : Apart rest) {exponent : Option (Bool × List Nat)}
    (read : exponentPart pieces = .ok (exponent, after)) :
    exponentPart (pieces ++ rest) = .ok (exponent, after ++ rest) := by
  by_cases small : ∃ more, pieces = .char 'e' :: more
  · obtain ⟨more, rfl⟩ := small
    exact exponentDigits_behind apart read
  by_cases capital : ∃ more, pieces = .char 'E' :: more
  · obtain ⟨more, rfl⟩ := capital
    exact exponentDigits_behind apart read
  have other : ∀ more, pieces ≠ .char 'e' :: more ∧ pieces ≠ .char 'E' :: more :=
    fun more => ⟨fun same => small ⟨more, same⟩, fun same => capital ⟨more, same⟩⟩
  rw [exponentPart_none pieces other] at read
  cases read
  refine exponentPart_none _ fun more => ?_
  cases pieces with
  | nil => exact ⟨fun same => (apart 'e' more same).2.2.1 rfl,
      fun same => (apart 'E' more same).2.2.2 rfl⟩
  | cons piece tail =>
      constructor
      · intro same
        cases same
        exact (other tail).1 rfl
      · intro same
        cases same
        exact (other tail).2 rfl

theorem readNumeral_behind (apart : Apart rest) {negative : Bool} {numeral : Numeral}
    (read : readNumeral negative pieces = .ok (numeral, after)) :
    readNumeral negative (pieces ++ rest) = .ok (numeral, after ++ rest) := by
  rw [readNumeral] at read ⊢
  obtain ⟨⟨whole, behindWhole⟩, readWhole, read⟩ := (bind_ok _ _ _).mp read
  obtain ⟨⟨fraction, behindFraction⟩, readFraction, read⟩ := (bind_ok _ _ _).mp read
  obtain ⟨⟨exponent, behindExponent⟩, readExponent, same⟩ := (bind_ok _ _ _).mp read
  cases same
  rw [wholePart_behind apart readWhole]
  refine (bind_ok _ _ _).mpr ⟨_, rfl, (bind_ok _ _ _).mpr
    ⟨_, fractionPart_behind apart readFraction, (bind_ok _ _ _).mpr
      ⟨_, exponentPart_behind apart readExponent, rfl⟩⟩⟩

-- Quoted texts

theorem skipText_behind (rest : List Piece) (skipped : skipText pieces = .ok after) :
    skipText (pieces ++ rest) = .ok (after ++ rest) := by
  fun_induction skipText pieces with
  | case2 width tail ih => exact ih skipped
  | case3 tail =>
      cases skipped
      rw [List.cons_append, skipText.eq_def]
      exact if_pos rfl
  | case5 c tail notQuote visible plain ih =>
      rw [List.cons_append, skipText.eq_def]
      simp [notQuote, visible, plain, ih skipped]
  | case8 c notQuote visible escape letter tail notCode stands ih =>
      rw [List.cons_append, List.cons_append, skipText.eq_def]
      simp [notQuote, visible, escape, notCode, stands, ih skipped]
  | case10 c notQuote visible escape letter isCode p q r s tail stands ih =>
      simp only [List.cons_append]
      rw [skipText.eq_def]
      simp [notQuote, visible, escape, isCode, stands, ih skipped]
  | _ => cases skipped

theorem readText_behind (rest : List Piece) {taken : List Char} {damaged : Bool} {text : String}
    (read : readTextFrom taken damaged pieces = .ok (text, after)) :
    readTextFrom taken damaged (pieces ++ rest) = .ok (text, after ++ rest) := by
  fun_induction readTextFrom taken damaged pieces with
  | case2 taken damaged width tail ih => exact ih read
  | case4 taken damaged tail intact =>
      cases read
      rw [List.cons_append, readTextFrom.eq_def]
      exact (if_pos rfl).trans (if_neg intact)
  | case6 taken damaged c tail notQuote visible plain ih =>
      rw [List.cons_append, readTextFrom.eq_def]
      simp [notQuote, visible, plain, ih read]
  | case9 taken damaged c notQuote visible escape letter tail notCode stood stands ih =>
      rw [List.cons_append, List.cons_append, readTextFrom.eq_def]
      simp [notQuote, visible, escape, notCode, stands, ih read]
  | case13 taken damaged c notQuote visible escape letter isCode p q r s tail word stands
      notTrailing notLeading ih =>
      simp only [List.cons_append]
      rw [readTextFrom.eq_def]
      simp only [Bool.not_eq_eq_eq_not, Bool.not_true] at notLeading
      simp [notQuote, visible, escape, isCode, stands, notTrailing, notLeading, ih read]
  | case19 taken damaged c notQuote visible escape letter isCode p q r s word stands notTrailing
      leading next backslash other also t u v w tail second alsoStands trailing ih =>
      simp only [List.cons_append]
      rw [readTextFrom.eq_def]
      simp only [Bool.not_eq_eq_eq_not, Bool.not_true] at leading
      simp [notQuote, visible, escape, isCode, stands, notTrailing, leading, backslash, also,
        alsoStands, trailing, ih read]
  | _ => cases read

theorem textOf_behind (rest : List Piece) {text : String}
    (read : Document.textOf pieces = .ok text) :
    Document.textOf (pieces ++ rest) = .ok text := by
  obtain ⟨⟨held, after⟩, taken, same⟩ := (map_ok _ _ _).mp read
  exact (map_ok _ _ _).mpr ⟨_, readText_behind rest taken, same⟩

-- Values

namespace Document

/-- One level of a document that is a tree as a whole. -/
inductive Level (depth : Nat) : Document → Tree → Prop
  | null : Level depth .null .null
  | bool (value : Bool) : Level depth (.bool value) (.bool value)
  | number (value : Number) : Level depth (.number (.ok value)) (.number value)
  | text (value : String) : Level depth (.text (.ok value)) (.text value)
  | list (inner : Nat) (items : List Document) (trees : List Tree)
      (entered : enter depth = .ok inner)
      (each : List.Forall₂ (fun item tree => item.whole inner = .ok tree) items trees) :
      Level depth (.list items .closed) (.list trees)
  | object (inner : Nat) (members : List (Except Fault String × Document))
      (trees : List (String × Tree)) (entered : enter depth = .ok inner)
      (each : List.Forall₂ (fun member tree => member.1 = .ok tree.1 ∧
        member.2.whole inner = .ok tree.2) members trees) :
      Level depth (.object members .closed) (.object trees)

theorem wholeItems_ok (depth : Nat) (items : List Document) (trees : List Tree) :
    wholeItems depth items = .ok trees ↔
      List.Forall₂ (fun item tree => item.whole depth = .ok tree) items trees := by
  induction items generalizing trees with
  | nil =>
      rw [wholeItems, List.forall₂_nil_left_iff, Except.ok.injEq]
      exact eq_comm
  | cons item rest ih =>
      rw [wholeItems, List.forall₂_cons_left_iff]
      simp only [bind_ok, ih]
      constructor
      · rintro ⟨tree, first, others, later, same⟩
        cases same
        exact ⟨tree, others, first, later, rfl⟩
      · rintro ⟨tree, others, first, later, rfl⟩
        exact ⟨tree, first, others, later, rfl⟩

theorem wholeMembers_ok (depth : Nat) (members : List (Except Fault String × Document))
    (trees : List (String × Tree)) :
    wholeMembers depth members = .ok trees ↔
      List.Forall₂ (fun member tree => member.1 = .ok tree.1 ∧
        member.2.whole depth = .ok tree.2) members trees := by
  induction members generalizing trees with
  | nil =>
      rw [wholeMembers, List.forall₂_nil_left_iff, Except.ok.injEq]
      exact eq_comm
  | cons member rest ih =>
      rw [wholeMembers, List.forall₂_cons_left_iff]
      simp only [bind_ok, ih]
      constructor
      · rintro ⟨key, named, tree, first, others, later, same⟩
        cases same
        exact ⟨(key, tree), others, ⟨named, first⟩, later, rfl⟩
      · rintro ⟨tree, others, ⟨named, first⟩, later, rfl⟩
        exact ⟨tree.1, named, tree.2, first, others, later, rfl⟩

theorem whole_level (depth : Nat) (document : Document) (tree : Tree)
    (whole : document.whole depth = .ok tree) : Level depth document tree := by
  cases document with
  | null =>
      cases whole
      exact .null
  | bool value =>
      cases whole
      exact .bool value
  | number value =>
      obtain ⟨held, rfl, rfl⟩ := (map_ok _ _ _).mp whole
      exact .number held
  | text value =>
      obtain ⟨held, rfl, rfl⟩ := (map_ok _ _ _).mp whole
      exact .text held
  | list items ending =>
      obtain ⟨inner, entered, whole⟩ := (bind_ok _ _ _).mp whole
      obtain ⟨trees, each, whole⟩ := (bind_ok _ _ _).mp whole
      obtain ⟨_, stops, same⟩ := (bind_ok _ _ _).mp whole
      cases same
      cases ending <;> cases stops
      exact .list inner items trees entered ((wholeItems_ok inner items trees).mp each)
  | object members ending =>
      obtain ⟨inner, entered, whole⟩ := (bind_ok _ _ _).mp whole
      obtain ⟨trees, each, whole⟩ := (bind_ok _ _ _).mp whole
      obtain ⟨_, stops, same⟩ := (bind_ok _ _ _).mp whole
      cases same
      cases ending <;> cases stops
      exact .object inner members trees entered ((wholeMembers_ok inner members trees).mp each)
  | broken lead whenRead whenSkipped => cases whole

/-- How a value is read that is no list or object, or the list or object by what reads its parts. -/
inductive Takes (fuel : Nat) : List Piece → Document → List Piece → Prop
  | null (tail after : List Piece) (word : readWord ['u', 'l', 'l'] tail = .ok after) :
      Takes fuel (.char 'n' :: tail) .null after
  | yes (tail after : List Piece) (word : readWord ['r', 'u', 'e'] tail = .ok after) :
      Takes fuel (.char 't' :: tail) (.bool true) after
  | no (tail after : List Piece) (word : readWord ['a', 'l', 's', 'e'] tail = .ok after) :
      Takes fuel (.char 'f' :: tail) (.bool false) after
  | negative (tail after : List Piece) (numeral : Numeral) (value : Number)
      (read : readNumeral true tail = .ok (numeral, after)) (has : numeral.value? = some value) :
      Takes fuel (.char '-' :: tail) (.number (.ok value)) after
  | numeral (c : Char) (tail after : List Piece) (numeral : Numeral) (value : Number)
      (digit : c.isDigit = true)
      (read : readNumeral false (.char c :: tail) = .ok (numeral, after))
      (has : numeral.value? = some value) :
      Takes fuel (.char c :: tail) (.number (.ok value)) after
  | text (tail after : List Piece) (value : String) (skipped : skipText tail = .ok after)
      (read : textOf tail = .ok value) :
      Takes fuel (.char '\x22' :: tail) (.text (.ok value)) after
  | noItems (tail after : List Piece) (closed : skipBlank tail = .char ']' :: after) :
      Takes fuel (.char '[' :: tail) (.list [] .closed) after
  | items (tail after : List Piece) (piece : Piece) (more : List Piece) (items : List Document)
      (begins : skipBlank tail = piece :: more) (other : piece ≠ .char ']')
      (read : readItems fuel (piece :: more) = (items, .closed, after)) :
      Takes fuel (.char '[' :: tail) (.list items .closed) after
  | noMembers (tail after : List Piece) (closed : skipBlank tail = .char '\x7d' :: after) :
      Takes fuel (.char '\x7b' :: tail) (.object [] .closed) after
  | members (tail after key : List Piece) (members : List (Except Fault String × Document))
      (quoted : skipBlank tail = .char '\x22' :: key)
      (read : readMembers fuel key = (members, .closed, after)) :
      Takes fuel (.char '\x7b' :: tail) (.object members .closed) after

theorem Level.whole {depth : Nat} {document : Document} {tree : Tree}
    (level : Level depth document tree) : document.whole depth = .ok tree := by
  cases level with
  | list inner items trees entered each =>
      rw [Document.whole, entered]
      exact (bind_ok _ _ _).mpr ⟨inner, rfl, (bind_ok _ _ _).mpr
        ⟨trees, (wholeItems_ok inner items trees).mpr each, rfl⟩⟩
  | object inner members trees entered each =>
      rw [Document.whole, entered]
      exact (bind_ok _ _ _).mpr ⟨inner, rfl, (bind_ok _ _ _).mpr
        ⟨trees, (wholeMembers_ok inner members trees).mpr each, rfl⟩⟩
  | _ => rfl

theorem ofWord_tree (word : List Char) (value document : Document) (lead : Lead)
    (tail after : List Piece) (depth : Nat) (tree : Tree)
    (read : ofWord word value lead tail = (document, after))
    (whole : document.whole depth = .ok tree) :
    readWord word tail = .ok after ∧ document = value := by
  rw [ofWord] at read
  cases result : readWord word tail with
  | ok behind =>
      rw [result] at read
      cases read
      exact ⟨rfl, rfl⟩
  | error fault =>
      rw [result] at read
      cases read
      cases whole

theorem ofNumeral_tree (negative : Bool) (document : Document) (tail after : List Piece)
    (depth : Nat) (tree : Tree) (read : ofNumeral negative tail = (document, after))
    (whole : document.whole depth = .ok tree) :
    ∃ numeral value, readNumeral negative tail = .ok (numeral, after) ∧
      numeral.value? = some value ∧ document = .number (.ok value) := by
  rw [ofNumeral] at read
  cases result : readNumeral negative tail with
  | error fault =>
      rw [result] at read
      cases read
      cases whole
  | ok taken =>
      obtain ⟨numeral, behind⟩ := taken
      rw [result] at read
      cases has : numeral.value? with
      | none =>
          simp only [has] at read
          cases read
          cases whole
      | some value =>
          simp only [has] at read
          cases read
          exact ⟨numeral, value, rfl, has, rfl⟩

theorem ofQuoted_tree (document : Document) (tail after : List Piece) (depth : Nat) (tree : Tree)
    (read : ofQuoted tail = (document, after)) (whole : document.whole depth = .ok tree) :
    ∃ value, skipText tail = .ok after ∧ textOf tail = .ok value ∧
      document = .text (.ok value) := by
  rw [ofQuoted] at read
  cases skipped : skipText tail with
  | ok behind =>
      rw [skipped] at read
      cases read
      obtain ⟨value, held, _⟩ := (map_ok _ _ _).mp whole
      exact ⟨value, rfl, held, congrArg _ held⟩
  | error fault =>
      rw [skipped] at read
      cases held : textOf tail <;> simp only [held] at read <;> cases read <;> cases whole

section Takes

variable {fuel depth : Nat} {document : Document} {tree : Tree} {tail : List Piece}

theorem takes_list (starts : skipBlank pieces = .char '[' :: tail)
    (read : readValue (fuel + 1) pieces = (document, after))
    (whole : document.whole depth = .ok tree) :
    Takes fuel (.char '[' :: tail) document after := by
  rw [readValue, starts] at read
  simp only [Char.reduceEq, Char.reduceIsDigit, Bool.false_eq_true, if_true, if_false] at read
  split at read
  case h_1 =>
    cases read
    cases whole_level depth _ tree whole
  case h_2 behind closed =>
    cases read
    exact .noItems tail after closed
  case h_3 nonempty notClosed =>
    rcases taken : readItems fuel (skipBlank tail) with ⟨items, ending, behind⟩
    rw [taken] at read
    cases read
    cases whole_level depth _ tree whole
    obtain ⟨piece, more, begins⟩ := List.exists_cons_of_ne_nil nonempty
    refine .items tail behind piece more items begins ?_ (begins ▸ taken)
    rintro rfl
    exact notClosed more begins

theorem takes_object (starts : skipBlank pieces = .char '\x7b' :: tail)
    (read : readValue (fuel + 1) pieces = (document, after))
    (whole : document.whole depth = .ok tree) :
    Takes fuel (.char '\x7b' :: tail) document after := by
  rw [readValue, starts] at read
  simp only [Char.reduceEq, Char.reduceIsDigit, Bool.false_eq_true, if_true, if_false] at read
  split at read
  case h_1 =>
    cases read
    cases whole_level depth _ tree whole
  case h_2 behind closed =>
    cases read
    exact .noMembers tail after closed
  case h_3 key quoted =>
    rcases taken : readMembers fuel key with ⟨members, ending, behind⟩
    rw [taken] at read
    cases read
    cases whole_level depth _ tree whole
    exact .members tail behind key members quoted taken
  case h_4 =>
    cases read
    cases whole_level depth _ tree whole

theorem takes_scalar (c : Char) (bracket : c ≠ '[') (brace : c ≠ '\x7b')
    (starts : skipBlank pieces = .char c :: tail)
    (read : readValue (fuel + 1) pieces = (document, after))
    (whole : document.whole depth = .ok tree) : Takes fuel (.char c :: tail) document after := by
  rw [readValue, starts] at read
  dsimp only at read
  by_cases isNull : c = 'n'
  · subst isNull
    obtain ⟨word, rfl⟩ := ofWord_tree _ _ _ _ _ _ depth tree read whole
    exact .null tail after word
  rw [if_neg isNull] at read
  by_cases yes : c = 't'
  · subst yes
    obtain ⟨word, rfl⟩ := ofWord_tree _ _ _ _ _ _ depth tree read whole
    exact .yes tail after word
  rw [if_neg yes] at read
  by_cases no : c = 'f'
  · subst no
    obtain ⟨word, rfl⟩ := ofWord_tree _ _ _ _ _ _ depth tree read whole
    exact .no tail after word
  rw [if_neg no] at read
  by_cases minus : c = '-'
  · subst minus
    obtain ⟨numeral, value, taken, has, rfl⟩ := ofNumeral_tree _ _ _ _ depth tree read whole
    exact .negative tail after numeral value taken has
  rw [if_neg minus] at read
  by_cases digit : c.isDigit = true
  · rw [if_pos digit] at read
    obtain ⟨numeral, value, taken, has, rfl⟩ := ofNumeral_tree _ _ _ _ depth tree read whole
    exact .numeral c tail after numeral value digit taken has
  rw [if_neg digit] at read
  by_cases quote : c = '\x22'
  · subst quote
    obtain ⟨value, skipped, held, rfl⟩ := ofQuoted_tree _ _ _ depth tree read whole
    exact .text tail after value skipped held
  rw [if_neg quote, if_neg bracket, if_neg brace] at read
  cases read
  cases whole

end Takes

/-- What is read and is a tree was read in one of these ways. -/
theorem takes_of_read (fuel : Nat) (document : Document) (depth : Nat) (tree : Tree)
    (read : readValue (fuel + 1) pieces = (document, after))
    (whole : document.whole depth = .ok tree) : Takes fuel (skipBlank pieces) document after := by
  cases starts : skipBlank pieces with
  | nil =>
      rw [readValue, starts] at read
      cases read
      cases whole
  | cons piece tail =>
      cases piece with
      | damage width =>
          rw [readValue, starts] at read
          cases read
          cases whole
      | char c =>
          by_cases bracket : c = '['
          · subst bracket
            exact takes_list starts read whole
          by_cases brace : c = '\x7b'
          · subst brace
            exact takes_object starts read whole
          exact takes_scalar c bracket brace starts read whole

/-- A digit begins no other value. -/
theorem digit_other (c : Char) (digit : c.isDigit = true) :
    c ≠ 'n' ∧ c ≠ 't' ∧ c ≠ 'f' ∧ c ≠ '-' := by
  refine ⟨?_, ?_, ?_, ?_⟩ <;>
  · rintro rfl
    revert digit
    decide

theorem Takes.read {fuel : Nat} {document : Document}
    (takes : Takes fuel (skipBlank pieces) document after) :
    readValue (fuel + 1) pieces = (document, after) := by
  rw [readValue]
  generalize skipBlank pieces = visible at takes
  cases takes with
  | null tail after word => simp [ofWord, word]
  | yes tail after word => simp [ofWord, word]
  | no tail after word => simp [ofWord, word]
  | negative tail after numeral value read has => simp [ofNumeral, read, has]
  | numeral c tail after numeral value digit read has =>
      obtain ⟨isNull, yes, no, minus⟩ := digit_other c digit
      simp [isNull, yes, no, minus, digit, ofNumeral, read, has]
  | text tail after value skipped read => simp [ofQuoted, skipped, read]
  | noItems tail after closed => simp [closed]
  | items tail after piece more items begins other read => simp [begins, other, read]
  | noMembers tail after closed => simp [closed]
  | members tail after key members quoted read => simp [quoted, read]

theorem Takes.visible {fuel : Nat} {document : Document}
    (takes : Takes fuel pieces document after) : ∃ piece more, pieces = piece :: more := by
  cases takes <;> exact ⟨_, _, rfl⟩

-- Items and members

inductive TakesItems (fuel : Nat) (pieces : List Piece) : List Document → List Piece → Prop
  | last (item : Document) (behind after : List Piece)
      (read : readValue fuel pieces = (item, behind))
      (closed : skipBlank behind = .char ']' :: after) :
      TakesItems fuel pieces [item] after
  | more (item : Document) (items : List Document) (behind tail : List Piece) (piece : Piece)
      (more after : List Piece) (read : readValue fuel pieces = (item, behind))
      (comma : skipBlank behind = .char ',' :: tail) (begins : skipBlank tail = piece :: more)
      (other : piece ≠ .char ']')
      (others : readItems fuel (piece :: more) = (items, .closed, after)) :
      TakesItems fuel pieces (item :: items) after

theorem takesItems_iff (fuel : Nat) (items : List Document) :
    readItems (fuel + 1) pieces = (items, .closed, after) ↔
      TakesItems fuel pieces items after := by
  rw [readItems]
  rcases taken : readValue fuel pieces with ⟨item, behind⟩
  constructor
  · intro read
    dsimp only at read
    split at read
    case h_1 => cases read
    case h_2 after closed =>
      cases read
      exact .last item behind after taken closed
    case h_3 tail comma =>
      split at read
      case h_1 => cases read
      case h_2 => cases read
      case h_3 nonempty notClosed =>
        rcases others : readItems fuel (skipBlank tail) with ⟨items, ending, behind⟩
        rw [others] at read
        cases read
        obtain ⟨piece, more, begins⟩ := List.exists_cons_of_ne_nil nonempty
        refine .more item items _ tail piece more behind taken comma begins ?_ (begins ▸ others)
        rintro rfl
        exact notClosed more begins
    case h_4 => cases read
  · intro takes
    cases takes with
    | last item behind after read closed =>
        cases taken.symm.trans read
        simp [closed]
    | more item items behind tail piece more after read comma begins other others =>
        cases taken.symm.trans read
        simp [comma, begins, other, others]

inductive TakesMembers (fuel : Nat) (pieces : List Piece) :
    List (Except Fault String × Document) → List Piece → Prop
  | last (value : Document) (colon tail behind after : List Piece)
      (quoted : skipText pieces = .ok colon) (named : skipBlank colon = .char ':' :: tail)
      (read : readValue fuel tail = (value, behind))
      (closed : skipBlank behind = .char '\x7d' :: after) :
      TakesMembers fuel pieces [(textOf pieces, value)] after
  | more (value : Document) (members : List (Except Fault String × Document))
      (colon tail behind next key after : List Piece)
      (quoted : skipText pieces = .ok colon) (named : skipBlank colon = .char ':' :: tail)
      (read : readValue fuel tail = (value, behind))
      (comma : skipBlank behind = .char ',' :: next) (begins : skipBlank next = .char '\x22' :: key)
      (others : readMembers fuel key = (members, .closed, after)) :
      TakesMembers fuel pieces ((textOf pieces, value) :: members) after

theorem takesMembers_iff (fuel : Nat) (members : List (Except Fault String × Document)) :
    readMembers (fuel + 1) pieces = (members, .closed, after) ↔
      TakesMembers fuel pieces members after := by
  rw [readMembers]
  constructor
  · intro read
    dsimp only at read
    split at read
    case h_1 => cases read
    case h_2 colon quoted =>
      split at read
      case h_1 => cases read
      case h_2 tail named =>
        rcases taken : readValue fuel tail with ⟨value, behind⟩
        rw [taken] at read
        dsimp only at read
        split at read
        case h_1 => cases read
        case h_2 after closed =>
          cases read
          exact .last value colon tail behind after quoted named taken closed
        case h_3 next comma =>
          split at read
          case h_1 => cases read
          case h_2 => cases read
          case h_3 key begins =>
            rcases others : readMembers fuel key with ⟨members, ending, after⟩
            rw [others] at read
            cases read
            exact .more value members colon tail behind next key after quoted named taken comma
              begins others
          case h_4 => cases read
        case h_4 => cases read
      case h_3 => cases read
  · intro takes
    cases takes with
    | last value colon tail behind after quoted named read closed =>
        simp [quoted, named, read, closed]
    | more value members colon tail behind next key after quoted named read comma begins others =>
        simp [quoted, named, read, comma, begins, others]

-- More text behind

mutual

/-- A value that is a tree is read again when more text stands behind it, and with more fuel. -/
-- The induction is on the fuel of the first reading. Only a numeral could go on into the rest.
theorem readValue_behind : (fuel more : Nat) → fuel ≤ more → (pieces after : List Piece) →
    (document : Document) → readValue fuel pieces = (document, after) → (depth : Nat) →
    (tree : Tree) → document.whole depth = .ok tree → (rest : List Piece) → Apart rest →
      readValue more (pieces ++ rest) = (document, after ++ rest)
  | 0, _, _, _, _, _, read, depth, tree, whole, _, _ => by
      cases read
      cases whole
  | fuel + 1, more + 1, enough, pieces, after, document, read, depth, tree, whole, rest, apart => by
      have takes := takes_of_read fuel document depth tree read whole
      obtain ⟨piece, tail, starts⟩ := takes.visible
      refine Takes.read ?_
      rw [skipBlank_behind rest starts]
      rw [starts] at takes
      cases takes with
      | null _ _ word => exact .null _ _ (readWord_behind rest _ word)
      | yes _ _ word => exact .yes _ _ (readWord_behind rest _ word)
      | no _ _ word => exact .no _ _ (readWord_behind rest _ word)
      | negative _ _ numeral value taken has =>
          exact .negative _ _ numeral value (readNumeral_behind apart taken) has
      | numeral c _ _ numeral value digit taken has =>
          exact .numeral c _ _ numeral value digit (readNumeral_behind apart taken) has
      | text _ _ value quoted held =>
          exact .text _ _ value (skipText_behind rest quoted) (textOf_behind rest held)
      | noItems _ _ closed => exact .noItems _ _ (skipBlank_behind rest closed)
      | items _ _ piece others items begins other taken =>
          cases whole_level depth _ tree whole with
          | list inner _ trees _ each =>
              exact .items _ _ piece _ items (skipBlank_behind rest begins) other
                (readItems_behind fuel more (Nat.le_of_succ_le_succ enough) _ after items taken
                  inner trees each rest apart)
      | noMembers _ _ closed => exact .noMembers _ _ (skipBlank_behind rest closed)
      | members _ _ key members quoted taken =>
          cases whole_level depth _ tree whole with
          | object inner _ trees _ each =>
              exact .members _ _ _ members (skipBlank_behind rest quoted)
                (readMembers_behind fuel more (Nat.le_of_succ_le_succ enough) key after members
                  taken inner trees each rest apart)

theorem readItems_behind : (fuel more : Nat) → fuel ≤ more → (pieces after : List Piece) →
    (items : List Document) → readItems fuel pieces = (items, .closed, after) → (depth : Nat) →
    (trees : List Tree) → List.Forall₂ (fun item tree => item.whole depth = .ok tree) items trees →
    (rest : List Piece) → Apart rest →
      readItems more (pieces ++ rest) = (items, .closed, after ++ rest)
  | 0, _, _, _, _, _, read, _, _, _, _, _ => by cases read
  | fuel + 1, more + 1, enough, pieces, after, items, read, depth, trees, each, rest, apart => by
      refine (takesItems_iff more items).mpr ?_
      cases (takesItems_iff fuel items).mp read with
      | last item behind after taken closed =>
          cases each with
          | cons first _ =>
              exact .last item _ _ (readValue_behind fuel more (Nat.le_of_succ_le_succ enough)
                pieces behind item taken depth _ first rest apart) (skipBlank_behind rest closed)
      | more item items behind tail piece others after taken comma begins other readOthers =>
          cases each with
          | cons first each =>
              exact .more item items _ _ piece _ _
                (readValue_behind fuel more (Nat.le_of_succ_le_succ enough) pieces behind item
                  taken depth _ first rest apart)
                (skipBlank_behind rest comma) (skipBlank_behind rest begins) other
                (readItems_behind fuel more (Nat.le_of_succ_le_succ enough) _ after items
                  readOthers depth _ each rest apart)

theorem readMembers_behind : (fuel more : Nat) → fuel ≤ more → (pieces after : List Piece) →
    (members : List (Except Fault String × Document)) →
    readMembers fuel pieces = (members, .closed, after) → (depth : Nat) →
    (trees : List (String × Tree)) →
    List.Forall₂ (fun member tree => member.1 = .ok tree.1 ∧
      member.2.whole depth = .ok tree.2) members trees →
    (rest : List Piece) → Apart rest →
      readMembers more (pieces ++ rest) = (members, .closed, after ++ rest)
  | 0, _, _, _, _, _, read, _, _, _, _, _ => by cases read
  | fuel + 1, more + 1, enough, pieces, after, members, read, depth, trees, each, rest, apart => by
      refine (takesMembers_iff more members).mpr ?_
      cases (takesMembers_iff fuel members).mp read with
      | last value colon tail behind after quoted named taken closed =>
          cases each with
          | cons first _ =>
              have key := textOf_behind rest first.1
              rw [show textOf pieces = textOf (pieces ++ rest) from first.1.trans key.symm]
              exact .last value _ _ _ _ (skipText_behind rest quoted)
                (skipBlank_behind rest named)
                (readValue_behind fuel more (Nat.le_of_succ_le_succ enough) tail behind value
                  taken depth _ first.2 rest apart) (skipBlank_behind rest closed)
      | more value members colon tail behind next key after quoted named taken comma begins
          others =>
          cases each with
          | cons first each =>
              have held := textOf_behind rest first.1
              rw [show textOf pieces = textOf (pieces ++ rest) from first.1.trans held.symm]
              exact .more value members _ _ _ _ _ _ (skipText_behind rest quoted)
                (skipBlank_behind rest named)
                (readValue_behind fuel more (Nat.le_of_succ_le_succ enough) tail behind value
                  taken depth _ first.2 rest apart)
                (skipBlank_behind rest comma) (skipBlank_behind rest begins)
                (readMembers_behind fuel more (Nat.le_of_succ_le_succ enough) key after members
                  others depth _ each rest apart)

end

end Document

end Entitlement.Json
