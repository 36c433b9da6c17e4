/-!
Punycode: a label of a domain name in ASCII. The ASCII characters come first; the others follow as
distances between the positions at which they are inserted, in ascending order of the characters.
-/

namespace Entitlement.Punycode

def digitChar (value : Nat) : Char :=
  if value < 26 then Char.ofNat (97 + value) else Char.ofNat (22 + value)

def digitValue? (c : Char) : Option Nat :=
  if 'a' ≤ c ∧ c ≤ 'z' then some (c.toNat - 97)
  else if 'A' ≤ c ∧ c ≤ 'Z' then some (c.toNat - 65)
  else if '0' ≤ c ∧ c ≤ '9' then some (c.toNat - 22)
  else none

/-- The place value at which a distance may end. -/
def threshold (position bias : Nat) : Nat :=
  max 1 (min 26 (position - bias))

theorem threshold_bounds (position bias : Nat) :
    1 ≤ threshold position bias ∧ threshold position bias ≤ 26 := by
  unfold threshold
  omega

def damp (delta position : Nat) : Nat :=
  if delta ≤ 455 then position + 36 * delta / (delta + 38) else damp (delta / 35) (position + 36)
termination_by delta

/-- The bias for the next distance, after one distance and so many characters. -/
def adapt (delta count : Nat) (isFirst : Bool) : Nat :=
  let halved := if isFirst then delta / 700 else delta / 2
  damp (halved + halved / count) 0

def writeDistance (bias position value : Nat) : List Char :=
  let t := threshold position bias
  if value < t then [digitChar value]
  else
    digitChar (t + (value - t) % (36 - t))
      :: writeDistance bias (position + 36) ((value - t) / (36 - t))
termination_by value
decreasing_by
  have bounds := threshold_bounds position bias
  have smaller := Nat.div_le_self (value - threshold position bias)
    (36 - threshold position bias)
  omega

-- The distance so far, the bias and how many characters have been written.
structure Writer where
  delta : Nat
  bias : Nat
  count : Nat
  written : List Char

def writeAt (code basic : Nat) (state : Writer) (c : Char) : Writer :=
  if c.toNat < code then { state with delta := state.delta + 1 }
  else if c.toNat = code then
    { delta := 0
      bias := adapt state.delta (state.count + 1) (state.count == basic)
      count := state.count + 1
      written := state.written ++ writeDistance state.bias 36 state.delta }
  else state

def insertCode (code : Nat) : List Nat → List Nat
  | [] => [code]
  | first :: rest =>
      if code < first then code :: first :: rest
      else if code = first then first :: rest
      else first :: insertCode code rest

def writeCodes (label : List Char) (basic : Nat) : (next : Nat) → List Nat → Writer → Writer
  | _, [], state => state
  | next, code :: rest, state =>
      let reached := { state with delta := state.delta + (code - next) * (state.count + 1) }
      let after := label.foldl (writeAt code basic) reached
      writeCodes label basic (code + 1) rest { after with delta := after.delta + 1 }

def isBasic (c : Char) : Bool := c.toNat < 128

def encode (label : List Char) : List Char :=
  let basic := label.filter isBasic
  let codes := (label.filter (!isBasic ·)).foldr (fun c codes => insertCode c.toNat codes) []
  let state := writeCodes label basic.length 128 codes ⟨0, 72, basic.length, []⟩
  (if basic.isEmpty then [] else basic ++ ['-']) ++ state.written

-- Reading

-- Distances and place values are at most this.
def limit : Nat := 4294967295

/-- Reads one distance: its value and what follows it. -/
def readDistance? (bias : Nat) : (position weight value : Nat) → List Char →
    Option (Nat × List Char)
  | _, _, _, [] => none
  | position, weight, value, c :: rest => do
      let digit ← digitValue? c
      let t := threshold position bias
      let value := value + digit * weight
      if limit < value then none
      else if digit < t then some (value, rest)
      else if limit < weight * (36 - t) then none
      else readDistance? bias (position + 36) (weight * (36 - t)) value rest

theorem readDistance?_shorter {bias position weight value : Nat} {text : List Char}
    {found : Nat × List Char} (read : readDistance? bias position weight value text = some found) :
    found.2.length < text.length := by
  induction text generalizing position weight value with
  | nil => simp [readDistance?] at read
  | cons c rest ih =>
      simp only [readDistance?, Option.bind_eq_bind, Option.bind_eq_some_iff] at read
      obtain ⟨digit, _, step⟩ := read
      split at step
      · simp at step
      · split at step
        · have same : found = (value + digit * weight, rest) := by simpa using step.symm
          simp [same]
        · split at step
          · simp at step
          · exact Nat.lt_succ_of_lt (ih step)

def insertAt (index : Nat) (c : Char) (label : List Char) : List Char :=
  label.take index ++ c :: label.drop index

def character? (code : Nat) : Option Char :=
  if code.isValidChar then some (Char.ofNat code) else none

def decodeFrom (code index bias : Nat) (label text : List Char) : Option (List Char) :=
  if text.isEmpty then some label
  else
    match _read : readDistance? bias 36 1 index text with
    | none => none
    | some (reached, rest) =>
        let count := label.length + 1
        let code := code + reached / count
        match character? code with
        | none => none
        | some c =>
            decodeFrom code (reached % count + 1) (adapt (reached - index) count (index == 0))
              (insertAt (reached % count) c label) rest
termination_by text.length
decreasing_by exact readDistance?_shorter _read

-- The ASCII characters end at the last hyphen, unless nothing stands before it.
def basicPart (text : List Char) : List Char × List Char :=
  let tail := (text.reverse.takeWhile (· ≠ '-')).reverse
  if text.length ≤ tail.length + 1 then ([], text)
  else (text.take (text.length - tail.length - 1), tail)

def decode? (text : List Char) : Option (List Char) :=
  let (basic, tail) := basicPart text
  if basic.all isBasic then decodeFrom 128 0 72 basic tail else none

end Entitlement.Punycode
