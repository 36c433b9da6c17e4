import Entitlement.Proofs.Members
import Entitlement.Service.Reply

/-!
The body that explains a failure. It is an object with a code and a message, each a text, null or
absent and neither of them given twice, or the list of the two. Any other text explains nothing and
is shown as it is.
-/

namespace Entitlement

open Json Record

-- The format

inductive OptionalText : Document → Option String → Prop where
  | null : OptionalText .null none
  | text {value : String} : OptionalText (.text (.ok value)) (some value)

inductive GivenOnce (name : String) (members : List (Except Fault String × Document)) :
    Option String → Prop where
  | absent (nothing : under name members = []) : GivenOnce name members none
  | once {document : Document} {value : Option String} (single : under name members = [document])
      (reads : OptionalText document value) : GivenOnce name members value

/-- A member of an object that is neither the code nor the message only has to be got past. -/
def IsMember (member : Except Fault String × Document) : Prop :=
  ∃ key, member.1 = .ok key ∧ (key = "code" ∨ key = "message" ∨ member.2.skip = .ok ())

inductive Explanation.Written : Document → Explanation → Prop where
  | object {members : List (Except Fault String × Document)} {code message : Option String}
      (sound : ∀ member ∈ members, IsMember member) (ofCode : GivenOnce "code" members code)
      (ofMessage : GivenOnce "message" members message) :
      Written (.object members .closed) ⟨code, message⟩
  | empty : Written (.list [] .closed) ⟨none, none⟩
  | single {first : Document} {code : Option String} (ofCode : OptionalText first code) :
      Written (.list [first] .closed) ⟨code, none⟩
  | both {first second : Document} {code message : Option String}
      (ofCode : OptionalText first code) (ofMessage : OptionalText second message) :
      Written (.list [first, second] .closed) ⟨code, message⟩

theorem optionalText_read (depth : Nat) (document : Document) (value : Option String) :
    (Codec.option .text).decode Source.text ⟨depth, document⟩ = .ok value ↔
      OptionalText document value := by
  constructor
  · intro read
    cases document with
    | null =>
        cases read
        exact .null
    | text held =>
        cases held with
        | error fault => cases read
        | ok text =>
            cases read
            exact .text
    | bool _ => cases read
    | number held => cases held <;> cases read
    | list _ _ => cases read
    | object _ _ => cases read
    | broken lead _ _ => cases lead <;> cases read
  · intro held
    cases held with
    | null => rfl
    | text => rfl

theorem list_closed (ending : ListEnd) : ending.close? = none ↔ ending = .closed := by
  cases ending <;> decide

theorem object_closed (ending : ObjectEnd) : ending.next? = none ↔ ending = .closed := by
  cases ending <;> decide

namespace Explanation

def fields : Fields [Option String, Option String] :=
  .field "code" (.option .text) .optional <| .field "message" (.option .text) .optional .nil

def within (members : List (Except Fault String × Document)) :
    List (Except Fault String × Source.Within) :=
  members.map fun member => (member.1, ⟨127, member.2⟩)

theorem givenOnce_iff (name : String) (members : List (Except Fault String × Document))
    (value : Option String) :
    ((under name (within members) = [] ∧ Absence.optional.inObject = some value) ∨
      ∃ place, under name (within members) = [place] ∧
        (Codec.option .text).decode Source.text place = .ok value) ↔
      GivenOnce name members value := by
  rw [within, under_map (fun document => (⟨127, document⟩ : Source.Within))]
  constructor
  · rintro (⟨nothing, absent⟩ | ⟨place, single, reads⟩)
    · cases absent
      exact .absent (List.map_eq_nil_iff.mp nothing)
    · obtain ⟨document, alone, rfl⟩ := List.map_eq_singleton_iff.mp single
      exact .once alone ((optionalText_read 127 document value).mp reads)
  · intro given
    cases given with
    | absent nothing => exact .inl ⟨List.map_eq_nil_iff.mpr nothing, rfl⟩
    | once single reads =>
        exact .inr ⟨_, List.map_eq_singleton_iff.mpr ⟨_, single, rfl⟩,
          (optionalText_read 127 _ value).mpr reads⟩

theorem isMember_iff (member : Except Fault String × Document) :
    fields.Passable Source.text (member.1, ⟨127, member.2⟩) ↔ IsMember member := by
  refine exists_congr fun key => and_congr_right fun _ => ?_
  show (key ∈ ["code", "message"] ∨ _) ↔ _
  simp only [List.mem_cons, List.not_mem_nil, or_false, or_assoc]
  rfl

theorem decode_object (members : List (Except Fault String × Document)) (ending : ObjectEnd)
    (explanation : Explanation) :
    codec.decode Source.text ⟨Document.depthLimit, .object members ending⟩ = .ok explanation ↔
      Written (.object members ending) explanation := by
  refine (record_object Source.text _ fields _ _ (by decide) _ (within members) ending.next? rfl
    explanation).trans ?_
  constructor
  · rintro ⟨passes, ends, ⟨code, message, _⟩, ⟨ofCode, ofMessage, _⟩, rfl⟩
    obtain rfl := (object_closed ending).mp ends
    refine .object (fun member present => ?_) ((givenOnce_iff ..).mp ofCode)
      ((givenOnce_iff ..).mp ofMessage)
    exact (isMember_iff member).mp (passes _ (List.mem_map.mpr ⟨member, present, rfl⟩))
  · intro written
    cases written with
    | object sound ofCode ofMessage =>
        refine ⟨fun member present => ?_, rfl, (_, _, ()), ⟨(givenOnce_iff ..).mpr ofCode,
          (givenOnce_iff ..).mpr ofMessage, trivial⟩, rfl⟩
        obtain ⟨inner, held, rfl⟩ := List.mem_map.mp present
        exact (isMember_iff inner).mpr (sound inner held)

theorem decode_list (items : List Document) (ending : ListEnd) (explanation : Explanation) :
    codec.decode Source.text ⟨Document.depthLimit, .list items ending⟩ = .ok explanation ↔
      Written (.list items ending) explanation := by
  refine (record_list Source.text _ fields _ _ _ (items.map (⟨127, ·⟩)) ending.next?
    (fun taken => if taken < items.length then some .trailingCharacters else ending.close?) rfl
    explanation).trans ?_
  constructor
  · rintro ⟨⟨short, ends⟩, ⟨code, message, _⟩, listed, rfl⟩
    have ends : (if 2 < items.length then some Fault.trailingCharacters else ending.close?) =
        none := ends
    have few : ¬ 2 < items.length := fun long => by
      rw [if_pos long] at ends
      cases ends
    rw [if_neg few, list_closed] at ends
    subst ends
    rcases items with _ | ⟨first, _ | ⟨second, rest⟩⟩
    · obtain ⟨absent, alsoAbsent, _⟩ := listed
      cases absent
      cases alsoAbsent
      exact .empty
    · obtain ⟨reads, absent, _⟩ := listed
      cases absent
      exact .single ((optionalText_read ..).mp reads)
    · obtain ⟨reads, alsoReads, _⟩ := listed
      rw [List.length_cons, List.length_cons] at few
      obtain rfl : rest = [] := List.eq_nil_of_length_eq_zero (by omega)
      exact .both ((optionalText_read ..).mp reads) ((optionalText_read ..).mp alsoReads)
  · intro written
    cases written with
    | empty => exact ⟨⟨fun _ => rfl, rfl⟩, (none, none, ()), ⟨rfl, rfl, trivial⟩, rfl⟩
    | single ofCode =>
        exact ⟨⟨fun _ => rfl, rfl⟩, (_, none, ()),
          ⟨(optionalText_read ..).mpr ofCode, rfl, trivial⟩, rfl⟩
    | both ofCode ofMessage =>
        exact ⟨⟨fun _ => rfl, rfl⟩, (_, _, ()),
          ⟨(optionalText_read ..).mpr ofCode, (optionalText_read ..).mpr ofMessage, trivial⟩, rfl⟩

theorem decode_written (document : Document) (explanation : Explanation) :
    codec.decode Source.text ⟨Document.depthLimit, document⟩ = .ok explanation ↔
      Written document explanation := by
  cases document with
  | object members ending => exact decode_object members ending explanation
  | list items ending => exact decode_list items ending explanation
  | null => exact ⟨nofun, nofun⟩
  | bool _ => exact ⟨nofun, nofun⟩
  | number held => cases held <;> exact ⟨nofun, nofun⟩
  | text held => cases held <;> exact ⟨nofun, nofun⟩
  | broken _ _ _ => exact ⟨nofun, nofun⟩

end Explanation

-- Texts

def documentOf (text : String) : Document := (Document.read (Text.ofText text)).1

def EndsAfter (text : String) : Prop := endOfText (Document.read (Text.ofText text)).2 = .ok ()

/-- Who wants nothing of a text gets to its end. -/
def IsJson (text : String) : Prop := (documentOf text).skip = .ok () ∧ EndsAfter text

def Explanation.StandsIn (explanation : Explanation) (text : String) : Prop :=
  explanation.Written (documentOf text) ∧ EndsAfter text

/-- The message that a text gives: what it explains, or else the text. -/
inductive Explains (text : String) : String → Prop where
  | both {code message : String} (stands : Explanation.StandsIn ⟨some code, some message⟩ text) :
      Explains text (code ++ ": " ++ message)
  | code {code : String} (stands : Explanation.StandsIn ⟨some code, none⟩ text) : Explains text code
  | message {message : String} (stands : Explanation.StandsIn ⟨none, some message⟩ text) :
      Explains text message
  | neither (stands : Explanation.StandsIn ⟨none, none⟩ text) : Explains text text
  | nothing (stands : ∀ explanation : Explanation, ¬ explanation.StandsIn text) : Explains text text

inductive Unexplained (text : String) : Prop where
  | notJson (broken : ¬ IsJson text)
  | otherKind (notObject : ∀ members ending, documentOf text ≠ .object members ending)
      (notList : ∀ items ending, documentOf text ≠ .list items ending)
  | wrongType {members : List (Except Fault String × Document)} {ending : ObjectEnd}
      {name : String} {document : Document} (object : documentOf text = .object members ending)
      (field : name = "code" ∨ name = "message") (held : document ∈ under name members)
      (wrong : ∀ value, ¬ OptionalText document value)
  | repeated {members : List (Except Fault String × Document)} {ending : ObjectEnd}
      {name : String} (object : documentOf text = .object members ending)
      (field : name = "code" ∨ name = "message") (again : 2 ≤ (under name members).length)
  | neither {members : List (Except Fault String × Document)} {ending : ObjectEnd}
      (object : documentOf text = .object members ending)
      (empty : ∀ name document, name = "code" ∨ name = "message" →
        document ∈ under name members → document = .null)

namespace Explanation

theorem ofText_ok (text : String) (explanation : Explanation) :
    codec.ofText text = .ok explanation ↔ explanation.StandsIn text := by
  have unfolded : codec.ofText text =
      codec.decode Source.text ⟨Document.depthLimit, documentOf text⟩ >>= fun value =>
        endOfText (Document.read (Text.ofText text)).2 >>= fun _ => .ok value := rfl
  rw [unfolded, bind_ok]
  constructor
  · rintro ⟨value, reads, finishes⟩
    obtain ⟨_, ends, same⟩ := (bind_ok _ _ _).mp finishes
    cases same
    exact ⟨(decode_written ..).mp reads, ends⟩
  · rintro ⟨written, ends⟩
    refine ⟨explanation, (decode_written ..).mpr written, ?_⟩
    rw [show endOfText (Document.read (Text.ofText text)).2 = .ok () from ends]
    rfl

theorem ofText_stands {text : String} {explanation : Explanation}
    (stands : explanation.StandsIn text) : ofText text = explanation.text?.getD text := by
  rw [ofText, (ofText_ok text explanation).mpr stands]

theorem ofText_silent {text : String}
    (silent : ∀ explanation : Explanation, ¬ explanation.StandsIn text) : ofText text = text := by
  rw [ofText]
  cases read : codec.ofText text with
  | error fault => rfl
  | ok explanation => exact absurd ((ofText_ok text explanation).mp read) (silent explanation)

theorem explains_iff (text message : String) : Explains text message ↔ message = ofText text := by
  constructor
  · intro explains
    cases explains with
    | both stands => exact (ofText_stands stands).symm
    | code stands => exact (ofText_stands stands).symm
    | message stands => exact (ofText_stands stands).symm
    | neither stands => exact (ofText_stands stands).symm
    | nothing silent => exact (ofText_silent silent).symm
  · rintro rfl
    by_cases found : ∃ explanation : Explanation, explanation.StandsIn text
    · obtain ⟨explanation, stands⟩ := found
      rw [ofText_stands stands]
      obtain ⟨_ | code, _ | message⟩ := explanation
      · exact .neither stands
      · exact .message stands
      · exact .code stands
      · exact .both stands
    · have silent := not_exists.mp found
      rw [ofText_silent silent]
      exact .nothing silent

end Explanation

-- Texts that explain nothing

section Given

variable {name : String} {members : List (Except Fault String × Document)} {value : Option String}

theorem given_held (given : GivenOnce name members value) (document : Document)
    (held : document ∈ under name members) : OptionalText document value := by
  cases given with
  | absent nothing =>
      rw [nothing] at held
      cases held
  | once single reads =>
      rw [single, List.mem_singleton] at held
      exact held ▸ reads

theorem given_once (given : GivenOnce name members value) : (under name members).length < 2 := by
  cases given with
  | absent nothing =>
      rw [nothing]
      exact Nat.zero_lt_two
  | once single reads =>
      rw [single]
      exact Nat.one_lt_two

theorem given_empty (given : GivenOnce name members value)
    (empty : ∀ document ∈ under name members, document = .null) : value = none := by
  cases given with
  | absent nothing => rfl
  | @once document _ single reads =>
      have null := empty document (by rw [single]; exact List.mem_singleton_self document)
      rw [null] at reads
      cases reads
      rfl

end Given

theorem optionalText_skip {document : Document} {value : Option String}
    (reads : OptionalText document value) : document.skip = .ok () := by
  cases reads with
  | null => rfl
  | text => rfl

theorem skipMembers_ok (members : List (Except Fault String × Document))
    (each : ∀ member ∈ members, member.2.skip = .ok ()) :
    Document.skipMembers members = .ok () := by
  induction members with
  | nil => rfl
  | cons member rest ih =>
      rw [Document.skipMembers, each member List.mem_cons_self]
      exact ih fun other present => each other (List.mem_cons_of_mem _ present)

namespace Explanation

/-- An explanation is JSON, whatever else its object holds. -/
theorem written_skips {document : Document} {explanation : Explanation}
    (written : explanation.Written document) : document.skip = .ok () := by
  cases written with
  | object sound ofCode ofMessage =>
      rw [Document.skip, skipMembers_ok]
      · rfl
      · rintro ⟨_, document⟩ present
        obtain ⟨key, rfl, rfl | rfl | passed⟩ := sound _ present
        · exact optionalText_skip (given_held ofCode document (mem_under _ _ _ present))
        · exact optionalText_skip (given_held ofMessage document (mem_under _ _ _ present))
        · exact passed
  | empty => rfl
  | single ofCode =>
      rw [Document.skip, Document.skipItems, optionalText_skip ofCode]
      rfl
  | both ofCode ofMessage =>
      rw [Document.skip, Document.skipItems, Document.skipItems, optionalText_skip ofCode,
        optionalText_skip ofMessage]
      rfl

theorem written_object {members : List (Except Fault String × Document)} {ending : ObjectEnd}
    {explanation : Explanation} (written : explanation.Written (.object members ending)) :
    GivenOnce "code" members explanation.code ∧
      GivenOnce "message" members explanation.message := by
  cases written with
  | object _ ofCode ofMessage => exact ⟨ofCode, ofMessage⟩

theorem unexplained_stands {text : String} (unexplained : Unexplained text)
    (explanation : Explanation) (stands : explanation.StandsIn text) :
    explanation = ⟨none, none⟩ := by
  obtain ⟨written, ends⟩ := stands
  cases unexplained with
  | notJson broken => exact absurd ⟨written_skips written, ends⟩ broken
  | otherKind notObject notList =>
      generalize documentOf text = document at written notObject notList
      cases written with
      | object => exact absurd rfl (notObject _ _)
      | empty => exact absurd rfl (notList _ _)
      | single => exact absurd rfl (notList _ _)
      | both => exact absurd rfl (notList _ _)
  | wrongType object field held wrong =>
      rw [object] at written
      obtain ⟨ofCode, ofMessage⟩ := written_object written
      rcases field with rfl | rfl
      · exact absurd (given_held ofCode _ held) (wrong _)
      · exact absurd (given_held ofMessage _ held) (wrong _)
  | repeated object field again =>
      rw [object] at written
      obtain ⟨ofCode, ofMessage⟩ := written_object written
      rcases field with rfl | rfl
      · exact absurd again (Nat.not_le_of_lt (given_once ofCode))
      · exact absurd again (Nat.not_le_of_lt (given_once ofMessage))
  | neither object empty =>
      rw [object] at written
      obtain ⟨ofCode, ofMessage⟩ := written_object written
      obtain ⟨code, message⟩ := explanation
      obtain rfl : code = none := given_empty ofCode fun document => empty _ document (.inl rfl)
      obtain rfl : message = none :=
        given_empty ofMessage fun document => empty _ document (.inr rfl)
      rfl

/-- A text that explains nothing is its own message. -/
theorem ofText_unexplained (text : String) (unexplained : Unexplained text) :
    ofText text = text := by
  by_cases found : ∃ explanation : Explanation, explanation.StandsIn text
  · obtain ⟨explanation, stands⟩ := found
    rw [ofText_stands stands, unexplained_stands unexplained explanation stands]
    rfl
  · exact ofText_silent (not_exists.mp found)

end Explanation

end Entitlement
