import Entitlement.Text.Form
import Entitlement.Url.Fault

/-!
Numeric host addresses. An IPv4 address may be written with one to four numbers, each in decimal,
octal or hexadecimal; an IPv6 address has eight pieces, of which one run of zeros may be left out
and the last two may be written as an IPv4 address.
-/

namespace Entitlement.Ipv4

open Text

def digitIn? (base : Nat) (c : Char) : Option Nat :=
  (hexValue? c).filter (· < base)

def valueIn? (base : Nat) (digits : List Char) : Option Nat :=
  digits.foldlM (fun value c => (digitIn? base c).map (value * base + ·)) 0

/-- A number of an address: `0x` starts a hexadecimal one and any other leading zero an octal one.
A mark with no digits after it stands for zero. -/
def number? : List Char → Option Nat
  | [] => none
  | '0' :: 'x' :: digits => valueIn? 16 digits
  | '0' :: 'X' :: digits => valueIn? 16 digits
  | '0' :: digit :: digits => valueIn? 8 (digit :: digits)
  | digits => valueIn? 10 digits

-- A point at the very end of a host is not followed by a part.
def partsOf (host : List Char) : List (List Char) :=
  let parts := Form.splitAt '.' host
  if parts.getLast? = some [] then parts.dropLast else parts

/-- Whether a host has to be an IPv4 address: its last part is a number, or at least all digits. -/
def endsInNumber (host : List Char) : Bool :=
  match (partsOf host).getLast? with
  | none => false
  | some last => (!last.isEmpty && last.all Char.isDigit) || (number? last).isSome

-- The leading numbers are bytes; the last one fills what is left of the address.
def combine? (leading : List Nat) (last : Nat) : Option Nat :=
  if leading.all (· ≤ 255) && last < Nat.pow 256 (4 - leading.length) then
    some (leading.foldl (fun value byte => value * 256 + byte) 0
      * Nat.pow 256 (4 - leading.length) + last)
  else none

def read? (host : List Char) : Option Nat := do
  let numbers ← (partsOf host).mapM number?
  let last ← numbers.getLast?
  if 4 < numbers.length then none else combine? numbers.dropLast last

def decimal (value : Nat) : List Char := Nat.toDigits 10 value

def text (address : Nat) : List Char :=
  Form.joinWith '.' ([address / 16777216, address / 65536 % 256, address / 256 % 256,
    address % 256].map decimal)

end Entitlement.Ipv4

namespace Entitlement.Ipv6

open Text

def piece? (digits : List Char) : Option Nat :=
  if digits.isEmpty || 4 < digits.length then none else Ipv4.valueIn? 16 digits

-- A byte of an embedded IPv4 address, in decimal and without leading zeros.
def byte? (digits : List Char) : Option Nat :=
  match digits with
  | [] => none
  | '0' :: _ :: _ => none
  | digits => (Ipv4.valueIn? 10 digits).filter (· ≤ 255)

def embedded? (text : List Char) : Option (List Nat) :=
  match Form.splitAt '.' text with
  | [a, b, c, d] => do
      return [(← byte? a) * 256 + (← byte? b), (← byte? c) * 256 + (← byte? d)]
  | _ => none

def lastPieces? : List (List Char) → Option (List Nat)
  | [] => some []
  | [last] => if last.contains '.' then embedded? last else (piece? last).map ([·])
  | group :: rest => do return (← piece? group) :: (← lastPieces? rest)

def groups (text : List Char) : List (List Char) :=
  if text.isEmpty then [] else Form.splitAt ':' text

def atDoubleColon? : List Char → Option (List Char × List Char)
  | ':' :: ':' :: rest => some ([], rest)
  | c :: rest => (atDoubleColon? rest).map fun parts => (c :: parts.1, parts.2)
  | [] => none

def exactly? (count : Nat) (pieces : List Nat) : Option (List Nat) :=
  if pieces.length = count then some pieces else none

-- A double colon stands for at least one piece.
def filled? (before after : List Nat) : Option (List Nat) :=
  let given := before.length + after.length
  if given < 8 then some (before ++ List.replicate (8 - given) 0 ++ after) else none

def read? (text : List Char) : Option (List Nat) :=
  match atDoubleColon? text with
  | none => do exactly? 8 (← lastPieces? (groups text))
  | some (before, after) => do
      filled? (← (groups before).mapM piece?) (← lastPieces? (groups after))

-- Writing

def hexadecimal (value : Nat) : List Char := Nat.toDigits 16 value

def zerosAt (pieces : List Nat) (start : Nat) : Nat :=
  ((pieces.drop start).takeWhile (· = 0)).length

/-- Start and length of the longest run of zeros, the first of equal ones. -/
def longestZeros (pieces : List Nat) : Nat × Nat :=
  (List.range pieces.length).foldl
    (fun best start =>
      if best.2 < zerosAt pieces start then (start, zerosAt pieces start) else best) (0, 0)

/-- The address in its shortest form: a run of two or more zeros is left out. -/
def text (pieces : List Nat) : List Char :=
  let (start, count) := longestZeros pieces
  let written := fun some => Form.joinWith ':' (some.map hexadecimal)
  if count < 2 then written pieces
  else written (pieces.take start) ++ ':' :: ':' :: written (pieces.drop (start + count))

end Entitlement.Ipv6
