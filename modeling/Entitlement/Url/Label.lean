import Entitlement.Text.Direction
import Entitlement.Text.Joining
import Entitlement.Text.Mark
import Entitlement.Url.Punycode

/-!
Labels: the parts of a domain name between its full stops. What may stand in a label depends on its
neighbours in the label, and in a name with a script that is written from right to left every label
has to keep one direction.
-/

namespace Entitlement.Label

open Text

def isBasic (label : List Char) : Bool := label.all Punycode.isBasic

/-- Labels with other characters have at most so many. -/
def greatestLength : Nat := 1000

-- Joiners

/-- Whether the first letter, marks passed over, joins its neighbour on the given side. -/
def joins (side : Joining) : List Char → Bool
  | [] => false
  | c :: rest =>
      match Joining.of c with
      | .transparent => joins side rest
      | .both => true
      | found => found == side

/-- A joiner shows the form of a consonant without its vowel, so it follows a virama. One that keeps
letters apart may also stand between two that would join. The characters before it are given last
one first. -/
def isPlaced (before : List Char) (c : Char) (rest : List Char) : Bool :=
  if c = '\u200D' then before.head?.any isVirama
  else if c = '\u200C' then
    before.head?.any isVirama || (joins .after before && joins .before rest)
  else true

def arePlaced (before : List Char) : List Char → Bool
  | [] => true
  | c :: rest => isPlaced before c rest && arePlaced (c :: before) rest

/-- A mark needs a character before it and a joiner the right neighbours. -/
def isAllowed (label : List Char) : Bool :=
  !label.head?.any isMark && arePlaced [] label
    && (isBasic label || label.length ≤ greatestLength)

-- Direction

def runsFromRight (c : Char) : Bool :=
  let direction := Direction.of c
  direction == .rightToLeft || direction == .arabicNumber

-- A label from left to right, after its first letter. Its last character is not neutral.
def keepsLeftToRight (rest : List Direction) (last : Direction) : Bool :=
  !rest.contains .rightToLeft && !rest.contains .arabicNumber
    && (last == .leftToRight || last == .europeanNumber)

-- A label from right to left, after its first letter. It has one kind of digits only.
def keepsRightToLeft (rest : List Direction) (last : Direction) : Bool :=
  !rest.contains .leftToRight && last != .neutral
    && !(rest.contains .europeanNumber && rest.contains .arabicNumber)

/-- Whether a label keeps the direction of its first letter. Marks at its end do not count. -/
def keepsDirection (label : List Char) : Bool :=
  match label.map Direction.of with
  | [] => true
  | first :: rest =>
      let last := (rest.reverse.find? (· != .mark)).getD first
      match first with
      | .leftToRight => keepsLeftToRight rest last
      | .rightToLeft => keepsRightToLeft rest last
      | _ => false

end Entitlement.Label
