/-!
Schemes of URLs. A few are known: they name hosts on the network, or files; all others leave open
what stands behind them.
-/

namespace Entitlement

inductive SchemeKind where
  | web
  | file
  | other
  deriving DecidableEq, Repr

namespace SchemeKind

def webPorts : List (List Char × Nat) :=
  [("http".toList, 80), ("https".toList, 443), ("ws".toList, 80), ("wss".toList, 443),
    ("ftp".toList, 21)]

def ofScheme (scheme : List Char) : SchemeKind :=
  if (webPorts.lookup scheme).isSome then .web
  else if scheme = "file".toList then .file
  else .other

/-- Known schemes take a backslash for a slash. -/
def isKnown : SchemeKind → Bool
  | .other => false
  | _ => true

def isSlash (kind : SchemeKind) (c : Char) : Bool :=
  c == '/' || (kind.isKnown && c == '\\')

def endsAuthority (kind : SchemeKind) (c : Char) : Bool :=
  kind.isSlash c || c == '?' || c == '#'

end SchemeKind

def usualPort? (scheme : List Char) : Option Nat :=
  SchemeKind.webPorts.lookup scheme

namespace Scheme

def isPart (c : Char) : Bool := c.isAlphanum || c == '+' || c == '-' || c == '.'

def read? (text : List Char) : Option (List Char × List Char) :=
  match text.takeWhile isPart, text.dropWhile isPart with
  | first :: rest, ':' :: after =>
      if first.isAlpha then some ((first :: rest).map Char.toLower, after) else none
  | _, _ => none

end Scheme

end Entitlement
