import Entitlement.Url.Host
import Entitlement.Url.Path

/-!
URLs, taken apart. Every part is kept in its written form, with percent signs where they are
needed, so that writing a URL only puts the parts together.
-/

namespace Entitlement

open Text

/-- Who and where: what stands between the two slashes and the path. -/
structure Authority where
  user : List Char
  password : List Char
  host : Option Host
  port : Option Nat
  deriving DecidableEq, Repr

structure Url where
  scheme : List Char
  authority : Option Authority
  path : UrlPath
  query : Option (List Char)
  fragment : Option (List Char)
  deriving DecidableEq, Repr

namespace Authority

def hasUserInfo (authority : Authority) : Bool :=
  !authority.user.isEmpty || !authority.password.isEmpty

def userInfoText (authority : Authority) : List Char :=
  if authority.hasUserInfo then
    authority.user
      ++ (if authority.password.isEmpty then [] else ':' :: authority.password) ++ ['@']
  else []

def portText : Option Nat → List Char
  | none => []
  | some port => ':' :: Nat.toDigits 10 port

def hostText : Option Host → List Char
  | none => []
  | some host => host.text

def text (authority : Authority) : List Char :=
  authority.userInfoText ++ hostText authority.host ++ portText authority.port

end Authority

namespace Url

def authorityText : Option Authority → List Char
  | none => []
  | some authority => '/' :: '/' :: authority.text

-- Without a host, a path must not start like one.
def guard (url : Url) : List Char :=
  if url.authority.isNone && ['/', '/'].isPrefixOf url.path.text then ['/', '.'] else []

def marked (mark : Char) : Option (List Char) → List Char
  | none => []
  | some part => mark :: part

def target (url : Url) : List Char := url.path.text ++ marked '?' url.query

def chars (url : Url) : List Char :=
  url.scheme ++ ':' :: (authorityText url.authority ++ url.guard ++ url.target
    ++ marked '#' url.fragment)

def text (url : Url) : String := String.ofList url.chars

def host? (url : Url) : Option Host := url.authority.bind Authority.host

def withPairs (url : Url) (pairs : List (String × String)) : Url :=
  { url with query := some (Form.append (url.query.getD []) pairs) }

def withoutEmptyQuery (url : Url) : Url :=
  { url with query := url.query.filter (!·.isEmpty) }

def pairs (url : Url) : List (String × String) := Form.read (url.query.getD [])

def withoutUserInfo (url : Url) : Url :=
  { url with authority := url.authority.map fun a => { a with user := [], password := [] } }

end Url

end Entitlement
