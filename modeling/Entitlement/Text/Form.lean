import Entitlement.Text.Percent

/-!
Form encoding: the pairs of a query. A space is written as a plus sign; letters, digits and four
marks stand for themselves, every other byte is written in percent form.
-/

namespace Entitlement.Text.Form

def isKept (c : Char) : Bool :=
  c.isAlphanum || c == '*' || c == '-' || c == '.' || c == '_'

def writeChar (c : Char) : List Char :=
  if c = ' ' then ['+'] else percentChar isKept c

def writeText (text : String) : List Char :=
  text.toList.flatMap writeChar

def writePair (pair : String × String) : List Char :=
  writeText pair.1 ++ '=' :: writeText pair.2

def joinWith (separator : Char) : List (List Char) → List Char
  | [] => []
  | [part] => part
  | part :: rest => part ++ separator :: joinWith separator rest

def write (pairs : List (String × String)) : List Char :=
  joinWith '&' (pairs.map writePair)

def append (query : List Char) (pairs : List (String × String)) : List Char :=
  if pairs.isEmpty then query
  else if query.isEmpty then write pairs
  else query ++ '&' :: write pairs

-- Reading back

def splitAt (separator : Char) : List Char → List (List Char)
  | [] => [[]]
  | c :: rest =>
      match splitAt separator rest with
      | [] => [[c]]
      | part :: parts => if c = separator then [] :: part :: parts else (c :: part) :: parts

def plusAsSpace (c : Char) : Char := if c = '+' then ' ' else c

def readText (text : List Char) : String :=
  repair (percentDecode (text.map plusAsSpace))

/-- A pair ends its name at the first equals sign; without one the value is empty. -/
def readPair (part : List Char) : String × String :=
  (readText (part.takeWhile (· ≠ '=')), readText ((part.dropWhile (· ≠ '=')).drop 1))

/-- The pairs of a query, damaged text repaired. Empty parts are no pairs. -/
def read (query : List Char) : List (String × String) :=
  ((splitAt '&' query).filter (!·.isEmpty)).map readPair

end Entitlement.Text.Form
