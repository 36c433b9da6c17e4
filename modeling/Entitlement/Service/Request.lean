import Entitlement.Json.Write
import Entitlement.Service.Authorization
import Entitlement.Settings.Client
import Entitlement.Url.Read

/-!
Requests: what a call asks for, the address of the service that it is sent to, and the request that
comes of both.
-/

namespace Entitlement

open Json

inductive Method where
  | get
  | post
  deriving DecidableEq, Repr

def Method.name : Method → String
  | .get => "GET"
  | .post => "POST"

structure Ask where
  method : Method
  path : String
  query : List (String × String)
  body : Option Tree

/-- A request as it is sent. A URL with user and password gives it an authorization of its own. -/
structure Request where
  method : Method
  url : Url
  authorizations : List String
  body : Option Tree

namespace Request

def contentType? (request : Request) : Option String :=
  request.body.map fun _ => "application/json"

def target (request : Request) : String := String.ofList request.url.target

end Request

-- User and password of a URL

def sextetChar (value : Nat) : Char :=
  if value < 26 then Char.ofNat (65 + value)
  else if value < 52 then Char.ofNat (71 + value)
  else if value < 62 then Char.ofNat (value - 4)
  else if value = 62 then '+'
  else '/'

/-- Three bytes as four characters; what is missing at the end is filled with equals signs. -/
def sextets : List UInt8 → List Char
  | a :: b :: c :: rest =>
      [sextetChar (a.toNat / 4), sextetChar (a.toNat % 4 * 16 + b.toNat / 16),
        sextetChar (b.toNat % 16 * 4 + c.toNat / 64), sextetChar (c.toNat % 64)] ++ sextets rest
  | [a, b] =>
      [sextetChar (a.toNat / 4), sextetChar (a.toNat % 4 * 16 + b.toNat / 16),
        sextetChar (b.toNat % 16 * 4), '=']
  | [a] => [sextetChar (a.toNat / 4), sextetChar (a.toNat % 4 * 16), '=', '=']
  | [] => []

def credentials (user password : String) : String :=
  "Basic " ++ String.ofList (sextets (Text.bytes user ++ Text.bytes ":" ++ Text.bytes password))

namespace Authority

def password? (authority : Authority) : Option String :=
  if authority.password.isEmpty then none
  else Text.intact? (Text.percentDecode authority.password)

/-- The header that a URL's user and password are sent as. If none is made of them, they stay in
the URL. -/
def credentials? (authority : Authority) : Option String := do
  let user ← Text.intact? (Text.percentDecode authority.user)
  if user.isEmpty && authority.password?.isNone then none
  else some (credentials user (authority.password?.getD ""))

end Authority

structure Client where
  baseUrl : String
  platform : Platform
  deriving DecidableEq, Repr

namespace Client

def withoutEndSlashes (text : String) : String :=
  String.ofList (text.toList.reverse.dropWhile (· == '/')).reverse

def withoutStartSlashes (text : String) : String :=
  String.ofList (text.toList.dropWhile (· == '/'))

/-- A client for the given settings. The address has to be a URL; slashes at its end are dropped. -/
def ofSettings (settings : ClientSettings) : Except Failure Client :=
  match Url.read settings.baseUrl with
  | .error fault => .error (.invalidUrl (settings.baseUrl ++ ": " ++ fault.message))
  | .ok _ => .ok ⟨withoutEndSlashes settings.baseUrl, settings.platform⟩

def address (client : Client) (path : String) : String :=
  client.baseUrl ++ "/" ++ withoutStartSlashes path

def longestAddress : Nat := 65534

def built {α : Type} : Option α → Except Failure α
  | none => .error (.transport .unbuildable)
  | some value => .ok value

def ensure (condition : Bool) : Except Failure Unit :=
  if condition then .ok () else .error (.transport .unbuildable)

def carriedSchemes : List (List Char) := ["http".toList, "https".toList]

/-- The characters of hosts in a request. In a URL there may also be quotation marks, backticks and
braces. -/
def isHostChar (c : Char) : Bool :=
  c.isAlphanum || "!$&'()*+,-.:;=[]_~".toList.contains c

def carriesHost (url : Url) : Bool := url.host?.all fun host => host.text.all isHostChar

/-- The URL of what is asked for. It has to name a host that requests are carried to. -/
def urlOf (client : Client) (ask : Ask) : Except Failure Url := do
  let url ← built (Url.read (client.address ask.path)).toOption
  ensure (url.host?.isSome && carriedSchemes.contains url.scheme)
  return (url.withPairs ask.query).withoutEmptyQuery

def request (client : Client) (ask : Ask) (header : Option String) : Except Failure Request := do
  let url ← client.urlOf ask
  ensure (header.all isHeaderValue)
  let credentials := url.authority.bind Authority.credentials?
  let bare := if credentials.isSome then url.withoutUserInfo else url
  ensure (carriesHost bare && bare.chars.length ≤ longestAddress)
  return ⟨ask.method, bare, credentials.toList ++ header.toList, ask.body⟩

end Client

end Entitlement
