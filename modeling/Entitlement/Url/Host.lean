import Entitlement.Url.Address
import Entitlement.Url.Domain

/-!
The host of a URL. Web addresses name a domain or give a numeric address; in other schemes a host
is any text without delimiters.
-/

namespace Entitlement

open Text

inductive Host where
  | domain (name : List Char)
  | ipv4 (address : Nat)
  | ipv6 (pieces : List Nat)
  deriving DecidableEq, Repr

namespace Host

def text : Host → List Char
  | .domain name => name
  | .ipv4 address => Ipv4.text address
  | .ipv6 pieces => '[' :: Ipv6.text pieces ++ [']']

def orFault {α : Type} (fault : UrlFault) : Option α → Except UrlFault α
  | none => .error fault
  | some value => .ok value

def ofBracketed (rest : List Char) : Except UrlFault Host :=
  if rest.getLast? = some ']' then
    orFault .invalidIpv6 ((Ipv6.read? rest.dropLast).map .ipv6)
  else .error .invalidIpv6

-- A name that ends like a number is an address or nothing.
def ofName (name : List Char) : Except UrlFault Host :=
  if name.isEmpty then .error .emptyHost
  else if Ipv4.endsInNumber name then orFault .invalidIpv4 ((Ipv4.read? name).map .ipv4)
  else .ok (.domain name)

def ofWebText : List Char → Except UrlFault Host
  | '[' :: rest => ofBracketed rest
  | text => do
      let decoded ← orFault .invalidDomain (intact? (percentDecode text))
      ofName (← orFault .invalidDomain (Domain.toAscii? decoded.toList))

def isDelimiter (c : Char) : Bool :=
  ['\x00', '\t', '\n', '\r', ' ', '#', '/', ':', '<', '>', '?', '@', '[', '\\', ']', '^',
    '|'].contains c

def ofText : List Char → Except UrlFault Host
  | '[' :: rest => ofBracketed rest
  | text =>
      if text.any isDelimiter then .error .invalidHostCharacter
      else .ok (.domain (percentEncode keptInOpaque text))

end Host

end Entitlement
