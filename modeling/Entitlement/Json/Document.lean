import Entitlement.Json.Scan
import Entitlement.Json.Tree

/-!
JSON text as a document: the value that stands in the text together with the place where the text
stops being JSON. A document is what is known of a text before anyone asks for a value in it, so it
keeps, at each fault, what a reader of that value reports and what a reader that skips it reports.
Reading a document never fails; whoever walks through it meets the faults in the order of the text.
-/

namespace Entitlement.Json

open Entitlement.Text

/-- How a broken value begins: some readers look at the first character only. -/
inductive Lead where
  | nullWord
  | scalar
  | other
  deriving DecidableEq, Repr

inductive ListEnd where
  | closed
  | ended
  | commaClosed
  | commaEnded
  | other
  deriving DecidableEq, Repr

/-- What follows the last member of an object. Something else may stand for the first key. -/
inductive ObjectEnd where
  | closed
  | ended
  | commaClosed
  | commaEnded
  | commaOther
  | other
  | notKey
  deriving DecidableEq, Repr

inductive Document where
  | null
  | bool (value : Bool)
  | number (value : Except Fault Number)
  | text (value : Except Fault String)
  | list (items : List Document) (ending : ListEnd)
  | object (members : List (Except Fault String × Document)) (ending : ObjectEnd)
  | broken (lead : Lead) (whenRead whenSkipped : Fault)

namespace ListEnd

def next? : ListEnd → Option Fault
  | .closed => none
  | .ended => some .endInList
  | .commaClosed => some .trailingComma
  | .commaEnded => some .endInValue
  | .other => some .expectedListEnd

def close? : ListEnd → Option Fault
  | .closed => none
  | .ended => some .endInList
  | .commaClosed => some .trailingComma
  | .commaEnded => some .trailingCharacters
  | .other => some .trailingCharacters

def skip? : ListEnd → Option Fault
  | .closed => none
  | .ended => some .endInList
  | .commaClosed => some .expectedValue
  | .commaEnded => some .endInValue
  | .other => some .expectedListEnd

end ListEnd

namespace ObjectEnd

def next? : ObjectEnd → Option Fault
  | .closed => none
  | .ended => some .endInObject
  | .commaClosed => some .trailingComma
  | .commaEnded => some .endInValue
  | .commaOther => some .keyNotText
  | .other => some .expectedObjectEnd
  | .notKey => some .keyNotText

def skip? : ObjectEnd → Option Fault
  | .closed => none
  | .ended => some .endInObject
  | .commaClosed => some .keyNotText
  | .commaEnded => some .endInObject
  | .commaOther => some .keyNotText
  | .other => some .expectedObjectEnd
  | .notKey => some .keyNotText

end ObjectEnd

def stopAt : Option Fault → Except Fault Unit
  | none => .ok ()
  | some fault => .error fault

namespace Document

def lost (fault : Fault) : Document := .broken .other fault fault

-- Reading

def ofWord (word : List Char) (value : Document) (lead : Lead) (rest : List Piece) :
    Document × List Piece :=
  match readWord word rest with
  | .ok after => (value, after)
  | .error fault => (.broken lead fault fault, [])

def ofNumeral (negative : Bool) (pieces : List Piece) : Document × List Piece :=
  match readNumeral negative pieces with
  | .error fault => (.broken .scalar fault.whenRead fault.whenSkipped, [])
  | .ok (numeral, after) =>
      match numeral.value? with
      | some value => (.number (.ok value), after)
      | none => (.number (.error .numberOutOfRange), after)

def textOf (pieces : List Piece) : Except Fault String :=
  (readText pieces).map (·.1)

def ofQuoted (pieces : List Piece) : Document × List Piece :=
  match skipText pieces with
  | .ok after => (.text (textOf pieces), after)
  | .error fault =>
      match textOf pieces with
      | .error reading => (.broken .other reading fault, [])
      | .ok _ => (lost fault, [])

mutual

-- Every call uses up a piece or stands one level inside a call that did, so the number of pieces
-- bounds the depth of the calls.
def readValue : Nat → List Piece → Document × List Piece
  | 0, _ => (lost .endInValue, [])
  | fuel + 1, pieces =>
      match skipBlank pieces with
      | [] => (lost .endInValue, [])
      | .damage _ :: _ => (lost .expectedValue, [])
      | .char c :: rest =>
          if c = 'n' then ofWord ['u', 'l', 'l'] .null .nullWord rest
          else if c = 't' then ofWord ['r', 'u', 'e'] (.bool true) .scalar rest
          else if c = 'f' then ofWord ['a', 'l', 's', 'e'] (.bool false) .scalar rest
          else if c = '-' then ofNumeral true rest
          else if c.isDigit then ofNumeral false (.char c :: rest)
          else if c = '\x22' then ofQuoted rest
          else if c = '[' then
            match skipBlank rest with
            | [] => (.list [] .ended, [])
            | .char ']' :: after => (.list [] .closed, after)
            | first =>
                let (items, ending, after) := readItems fuel first
                (.list items ending, after)
          else if c = '\x7b' then
            match skipBlank rest with
            | [] => (.object [] .ended, [])
            | .char '\x7d' :: after => (.object [] .closed, after)
            | .char '\x22' :: key =>
                let (members, ending, after) := readMembers fuel key
                (.object members ending, after)
            | _ => (.object [] .notKey, [])
          else (lost .expectedValue, [])

def readItems : Nat → List Piece → List Document × ListEnd × List Piece
  | 0, _ => ([], .ended, [])
  | fuel + 1, pieces =>
      let (item, after) := readValue fuel pieces
      match skipBlank after with
      | [] => ([item], .ended, [])
      | .char ']' :: after => ([item], .closed, after)
      | .char ',' :: after =>
          match skipBlank after with
          | [] => ([item], .commaEnded, [])
          | .char ']' :: _ => ([item], .commaClosed, [])
          | next =>
              let (items, ending, after) := readItems fuel next
              (item :: items, ending, after)
      | _ => ([item], .other, [])

-- Starts after the opening quote of a key.
def readMembers : Nat → List Piece → List (Except Fault String × Document) × ObjectEnd × List Piece
  | 0, _ => ([], .ended, [])
  | fuel + 1, pieces =>
      let key := textOf pieces
      match skipText pieces with
      | .error fault => ([(key, lost fault)], .ended, [])
      | .ok after =>
          match skipBlank after with
          | [] => ([(key, lost .endInObject)], .ended, [])
          | .char ':' :: after =>
              let (value, after) := readValue fuel after
              match skipBlank after with
              | [] => ([(key, value)], .ended, [])
              | .char '\x7d' :: after => ([(key, value)], .closed, after)
              | .char ',' :: after =>
                  match skipBlank after with
                  | [] => ([(key, value)], .commaEnded, [])
                  | .char '\x7d' :: _ => ([(key, value)], .commaClosed, [])
                  | .char '\x22' :: next =>
                      let (members, ending, after) := readMembers fuel next
                      ((key, value) :: members, ending, after)
                  | _ => ([(key, value)], .commaOther, [])
              | _ => ([(key, value)], .other, [])
          | _ => ([(key, lost .expectedColon)], .ended, [])

end

def read (pieces : List Piece) : Document × List Piece :=
  readValue (2 * pieces.length + 2) pieces

-- Walking

mutual

/-- Whether a reader that does not want the value gets past it. -/
def skip : Document → Except Fault Unit
  | .list items ending => do
      skipItems items
      stopAt ending.skip?
  | .object members ending => do
      skipMembers members
      stopAt ending.skip?
  | .broken _ _ whenSkipped => .error whenSkipped
  | _ => .ok ()

def skipItems : List Document → Except Fault Unit
  | [] => .ok ()
  | item :: rest => do
      item.skip
      skipItems rest

def skipMembers : List (Except Fault String × Document) → Except Fault Unit
  | [] => .ok ()
  | (_, value) :: rest => do
      value.skip
      skipMembers rest

end

/-- Lists and objects within one another, at most one less than this many. -/
def depthLimit : Nat := 128

def enter (depth : Nat) : Except Fault Nat :=
  if depth ≤ 1 then .error .tooDeep else .ok (depth - 1)

mutual

/-- The whole value as a tree, members in the order of the text. -/
def whole (depth : Nat) : Document → Except Fault Tree
  | .null => .ok .null
  | .bool value => .ok (.bool value)
  | .number value => value.map .number
  | .text value => value.map .text
  | .list items ending => do
      let trees ← wholeItems (← enter depth) items
      stopAt ending.next?
      return .list trees
  | .object members ending => do
      let trees ← wholeMembers (← enter depth) members
      stopAt ending.next?
      return .object trees
  | .broken _ whenRead _ => .error whenRead

def wholeItems (depth : Nat) : List Document → Except Fault (List Tree)
  | [] => .ok []
  | item :: rest => do
      let tree ← item.whole depth
      return tree :: (← wholeItems depth rest)

def wholeMembers (depth : Nat) :
    List (Except Fault String × Document) → Except Fault (List (String × Tree))
  | [] => .ok []
  | (key, value) :: rest => do
      let key ← key
      let tree ← value.whole depth
      return (key, tree) :: (← wholeMembers depth rest)

end

end Document

def endOfText (after : List Piece) : Except Fault Unit :=
  match skipBlank after with
  | [] => .ok ()
  | _ => .error .trailingCharacters

def Tree.ofPieces (pieces : List Piece) : Except Fault Tree := do
  let (document, after) := Document.read pieces
  let tree ← document.whole Document.depthLimit
  endOfText after
  return tree.canonical

end Entitlement.Json
