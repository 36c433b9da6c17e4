import Entitlement.Text.Utf8

/-!
Percent-encoding: a byte that may not stand in a part of a URL is written as `%` and two hexadecimal
digits. Which bytes that are depends on the part.
-/

namespace Entitlement.Text

def upperHex (value : Nat) : Char :=
  if value < 10 then Char.ofNat (48 + value) else Char.ofNat (55 + value)

def percentByte (byte : Nat) : List Char :=
  ['%', upperHex (byte / 16), upperHex (byte % 16)]

def percentChar (isKept : Char → Bool) (c : Char) : List Char :=
  if isKept c then [c]
  else (String.utf8EncodeChar c).flatMap fun byte => percentByte byte.toNat

def percentEncode (isKept : Char → Bool) (text : List Char) : List Char :=
  text.flatMap (percentChar isKept)

def hexValue? (c : Char) : Option Nat :=
  if '0' ≤ c ∧ c ≤ '9' then some (c.toNat - 48)
  else if 'a' ≤ c ∧ c ≤ 'f' then some (c.toNat - 87)
  else if 'A' ≤ c ∧ c ≤ 'F' then some (c.toNat - 55)
  else none

def hexByte? (high low : Char) : Option UInt8 := do
  let high ← hexValue? high
  let low ← hexValue? low
  return UInt8.ofNat (high * 16 + low)

/-- The bytes that a text stands for. A percent sign without two digits stands for itself. -/
def percentDecode : List Char → List UInt8
  | '%' :: high :: low :: rest =>
      match hexByte? high low with
      | some byte => byte :: percentDecode rest
      | none => String.utf8EncodeChar '%' ++ percentDecode (high :: low :: rest)
  | c :: rest => String.utf8EncodeChar c ++ percentDecode rest
  | [] => []

-- Parts of a URL and the characters kept in them. None keeps a control or a non-ASCII character.

def isPlain (c : Char) : Bool := ' ' ≤ c && c ≤ '~'

def keptInOpaque (c : Char) : Bool := isPlain c

def keptInFragment (c : Char) : Bool :=
  isPlain c && !([' ', '\x22', '<', '>', '`'].contains c)

def keptInPath (c : Char) : Bool :=
  keptInFragment c && !(['#', '?', '\x7b', '\x7d'].contains c)

def keptInUser (c : Char) : Bool :=
  keptInPath c && !(['/', ':', ';', '=', '@', '[', '\\', ']', '^', '|'].contains c)

def keptInQuery (c : Char) : Bool :=
  isPlain c && !([' ', '\x22', '#', '<', '>'].contains c)

/-- Web addresses also encode the apostrophe. -/
def keptInSpecialQuery (c : Char) : Bool :=
  keptInQuery c && c != '\x27'

end Entitlement.Text
