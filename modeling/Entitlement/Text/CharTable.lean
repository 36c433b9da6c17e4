import Entitlement.Text.Percent

/-!
Sets of characters and maps from them, written down as lines of words. The lines list the numbers of
the characters in hexadecimal, so that a long table stays short to read and to check.
-/

namespace Entitlement.Text

def readHex (digits : List Char) : Nat :=
  digits.foldl (fun value c => value * 16 + (hexValue? c).getD 0) 0

/-- What stands before and after a sign; all of it before if there is no such sign. -/
def cutAt (sign : Char) (text : List Char) : List Char × List Char :=
  (text.takeWhile (· ≠ sign), (text.dropWhile (· ≠ sign)).drop 1)

def words (lines : List String) : List (List Char) :=
  lines.flatMap fun line => (line.splitOn " ").map String.toList

-- Sets

/-- The characters between the first edge and the second, between the third and the fourth, and so
on; the edges ascend, and the lower one belongs to the set. -/
structure CharSet where
  edges : List Nat
  deriving DecidableEq, Repr

namespace CharSet

def ofLines (lines : List String) : CharSet := ⟨(words lines).map readHex⟩

-- The edges behind the first one that is too high count for nothing.
def isInside (code : Nat) : (inside : Bool) → List Nat → Bool
  | inside, [] => inside
  | inside, edge :: rest => if edge ≤ code then isInside code (!inside) rest else inside

def contains (set : CharSet) (c : Char) : Bool := isInside c.toNat false set.edges

end CharSet

-- Maps

/-- Characters at a fixed distance from one another, and the numbers they stand for: the same ones
for all, or shifted by as much as the character is. -/
structure CharRun where
  first : Nat
  last : Nat
  step : Nat
  isShifted : Bool
  target : List Nat
  deriving DecidableEq, Repr

namespace CharRun

def holds (run : CharRun) (code : Nat) : Bool :=
  run.first ≤ code && code ≤ run.last && (code - run.first) % run.step == 0

def valueAt (run : CharRun) (code : Nat) : List Nat :=
  if run.isShifted then run.target.map (· + (code - run.first)) else run.target

def readTarget (text : List Char) : List Nat :=
  if text.isEmpty then []
  else ((String.ofList text).splitOn ".").map fun part => readHex part.toList

-- A word such as `C0-D6>E0`, `100-12E/2>101` or `FB01=66.69`; the sign `>` shifts.
def ofWord (word : List Char) : CharRun :=
  let isShifted := word.contains '>'
  let (source, target) := cutAt (if isShifted then '>' else '=') word
  let (range, step) := cutAt '/' source
  let (first, last) := cutAt '-' range
  { first := readHex first
    last := readHex (if last.isEmpty then first else last)
    step := if step.isEmpty then 1 else readHex step
    isShifted
    target := readTarget target }

end CharRun

structure CharMap where
  runs : List CharRun
  deriving DecidableEq, Repr

namespace CharMap

def ofLines (lines : List String) : CharMap := ⟨(words lines).map CharRun.ofWord⟩

def runOf? (code : Nat) : List CharRun → Option CharRun
  | [] => none
  | run :: rest =>
      if code < run.first then none
      else if run.holds code then some run
      else runOf? code rest

def get? (map : CharMap) (c : Char) : Option (List Nat) :=
  (runOf? c.toNat map.runs).map (·.valueAt c.toNat)

end CharMap

end Entitlement.Text
