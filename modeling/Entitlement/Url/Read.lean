import Entitlement.Url.Basic

/-!
Reading URLs. The text is cut at its delimiters from left to right; which ones count depends on the
scheme. Blanks around the text and line breaks within it are not part of it.
-/

namespace Entitlement

open Text

namespace Authority

-- User and password, the password after the first colon.
def ofUserInfo (text : List Char) : List Char × List Char :=
  (percentEncode keptInUser (text.takeWhile (· ≠ ':')),
    percentEncode keptInUser ((text.dropWhile (· ≠ ':')).drop 1))

def atLastAt? (text : List Char) : Option (List Char × List Char) :=
  if text.contains '@' then
    let after := (text.reverse.takeWhile (· ≠ '@')).reverse
    some (text.take (text.length - after.length - 1), after)
  else none

/-- The host ends at the first colon that is not between brackets. -/
def splitHost (kind : SchemeKind) : (bracketed : Bool) → List Char → List Char × List Char
  | _, [] => ([], [])
  | bracketed, c :: rest =>
      if kind.endsAuthority c || (c == ':' && !bracketed) then ([], c :: rest)
      else
        let parts := splitHost kind (c == '[' || (bracketed && c != ']')) rest
        (c :: parts.1, parts.2)

def endsPort (c : Char) : Bool := c == '/' || c == '\\' || c == '?' || c == '#'

def portOf? (digits : List Char) : Option (Option Nat) :=
  match digits with
  | [] => some none
  | digits => ((Ipv4.valueIn? 10 digits).filter (· < 65536)).map some

/-- The port after a host and what follows it. The usual port of the scheme is not kept. -/
def readPort (scheme : List Char) : List Char → Except UrlFault (Option Nat × List Char)
  | ':' :: rest => do
      let port ← Host.orFault .invalidPort (portOf? (rest.takeWhile (!endsPort ·)))
      return (port.filter fun port => usualPort? scheme != some port, rest.dropWhile (!endsPort ·))
  | rest => .ok (none, rest)

-- Outside the network schemes a host may be left out, but then there is no port either.
def hostOf (kind : SchemeKind) (host after : List Char) : Except UrlFault (Option Host) :=
  if host.isEmpty then
    if kind.isKnown || after.head? = some ':' then .error .emptyHost else .ok none
  else if kind.isKnown then (Host.ofWebText host).map some
  else (Host.ofText host).map some

def read (scheme rest : List Char) : Except UrlFault (Authority × List Char) := do
  let kind := SchemeKind.ofScheme scheme
  let named := rest.takeWhile (!kind.endsAuthority ·)
  let path := rest.dropWhile (!kind.endsAuthority ·)
  let (info, place) := (atLastAt? named).getD ([], named)
  if named.head? = some '@' && info.isEmpty && place.isEmpty && !path.isEmpty then
    .error .emptyHost
  let (host, after) := splitHost kind false (place ++ path)
  let found ← hostOf kind host after
  let (port, rest) ← readPort scheme after
  let (user, password) := ofUserInfo info
  let authority : Authority := ⟨user, password, found, port⟩
  if found.isNone && authority.hasUserInfo then .error .emptyHost else .ok (authority, rest)

end Authority

namespace Url

def endsPath (c : Char) : Bool := c == '?' || c == '#'

def keptInQueryOf (kind : SchemeKind) : Char → Bool :=
  if kind.isKnown then keptInSpecialQuery else keptInQuery

def readFragment : List Char → Option (List Char)
  | '#' :: rest => some (percentEncode keptInFragment rest)
  | _ => none

def readTail (kind : SchemeKind) : List Char → Option (List Char) × Option (List Char)
  | '?' :: rest =>
      (some (percentEncode (keptInQueryOf kind) (rest.takeWhile (· ≠ '#'))),
        readFragment (rest.dropWhile (· ≠ '#')))
  | rest => (none, readFragment rest)

/-- The path of a URL with a host. A known scheme always has one. -/
def readPath (kind : SchemeKind) : List Char → UrlPath
  | [] => .rooted (if kind.isKnown then [[]] else [])
  | c :: rest =>
      .rooted (UrlPath.readSegments kind (if kind.isSlash c then rest else c :: rest))

def build (scheme : List Char) (authority : Option Authority) (path : List Char → UrlPath)
    (rest : List Char) : Url :=
  let (query, fragment) := readTail (.ofScheme scheme) (rest.dropWhile (!endsPath ·))
  ⟨scheme, authority, path (rest.takeWhile (!endsPath ·)), query, fragment⟩

def readWeb (scheme rest : List Char) : Except UrlFault Url := do
  let slashless := rest.dropWhile (SchemeKind.web.isSlash ·)
  let (authority, rest) ← Authority.read scheme slashless
  return build scheme (some authority) (readPath .web) rest

def readOther (scheme rest : List Char) : Except UrlFault Url :=
  match rest with
  | '/' :: '/' :: rest => do
      let (authority, rest) ← Authority.read scheme rest
      return build scheme (some authority) (readPath .other) rest
  | '/' :: _ => .ok (build scheme none (readPath .other) rest)
  | _ => .ok (build scheme none (fun path => .rootless (percentEncode keptInOpaque path)) rest)

-- Files

def noHost : Authority := ⟨[], [], none, none⟩

/-- The host of a file; this machine is not named. -/
def fileHost (text : List Char) : Except UrlFault (Option Host) := do
  if text.isEmpty then return none
  let host ← Host.ofWebText text
  return if host = .domain "localhost".toList then none else some host

-- A path that starts with a drive letter is on this machine, whatever host was given.
def settled (url : Url) : Url :=
  let url := match url.path with
    | .rooted (first :: _) =>
        if UrlPath.isDrive first then { url with authority := some noHost } else url
    | _ => url
  { url with path := url.path.withOneSlash }

def readWholePath (path : List Char) : UrlPath := .rooted (UrlPath.readSegments .file path)

-- Without a host, the slash that would end it belongs to the path.
def readLocated (scheme rest : List Char) : Except UrlFault Url := do
  let named := rest.takeWhile (!SchemeKind.file.endsAuthority ·)
  if UrlPath.isDrive named then return settled (build scheme (some noHost) readWholePath rest)
  else
    let host ← fileHost named
    let path := if host.isNone then readWholePath else readPath .file
    return settled (build scheme (some { noHost with host }) path
      (rest.dropWhile (!SchemeKind.file.endsAuthority ·)))

def readFile (scheme rest : List Char) : Except UrlFault Url :=
  match rest with
  | a :: b :: more =>
      if SchemeKind.file.isSlash a && SchemeKind.file.isSlash b then readLocated scheme more
      else .ok (settled (build scheme (some noHost) (readPath .file) rest))
  | _ => .ok (settled (build scheme (some noHost) (readPath .file) rest))

def isOuterBlank (c : Char) : Bool := c ≤ ' '

def isBreak (c : Char) : Bool := c == '\t' || c == '\n' || c == '\r'

def trimmed (text : List Char) : List Char :=
  ((((text.dropWhile isOuterBlank).reverse).dropWhile isOuterBlank).reverse).filter (!isBreak ·)

def readScheme (scheme rest : List Char) : Except UrlFault Url :=
  match SchemeKind.ofScheme scheme with
  | .web => readWeb scheme rest
  | .file => readFile scheme rest
  | .other => readOther scheme rest

/-- Reads a URL. A text without a scheme is none. -/
def read (text : String) : Except UrlFault Url :=
  match Scheme.read? (trimmed text.toList) with
  | none => .error .noScheme
  | some (scheme, rest) => readScheme scheme rest

end Url

end Entitlement
