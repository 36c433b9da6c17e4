import Entitlement.Text.Form
import Entitlement.Url.Scheme

/-!
The path of a URL: the segments between its slashes, each in percent form. A segment of one dot
stands for nothing and one of two dots takes back the segment before it.
-/

namespace Entitlement

open Text

/-- Some schemes have no slashes to cut at; their path is one text. -/
inductive UrlPath where
  | rootless (text : List Char)
  | rooted (segments : List (List Char))
  deriving DecidableEq, Repr

namespace UrlPath

def text : UrlPath → List Char
  | .rootless text => text
  | .rooted segments => segments.flatMap ('/' :: ·)

def splitSlashes (kind : SchemeKind) (path : List Char) : List (List Char) :=
  Form.splitAt '/' (path.map fun c => if kind.isSlash c then '/' else c)

-- Dots

def isEncodedDot : List Char → Bool
  | ['.'] => true
  | ['%', '2', 'e'] => true
  | ['%', '2', 'E'] => true
  | _ => false

def isSingleDot (segment : List Char) : Bool := isEncodedDot segment

def isDoubleDot (segment : List Char) : Bool :=
  (isEncodedDot (segment.take 1) && isEncodedDot (segment.drop 1))
    || (isEncodedDot (segment.take 3) && isEncodedDot (segment.drop 3))

-- Drive letters of files

def isDrive : List Char → Bool
  | [letter, mark] => letter.isAlpha && (mark == ':' || mark == '|')
  | _ => false

/-- Segments so far, the last one first, after taking one back. A drive letter stays. -/
def takeBack : List (List Char) → List (List Char)
  | [] => []
  | last :: rest => if isDrive last then last :: rest else rest

def settleDrive (kind : SchemeKind) (before : List (List Char)) (segment : List Char) :
    List Char :=
  if kind = .file && before.isEmpty && isDrive segment then segment.take 1 ++ [':'] else segment

/-- Adds written segments to those so far, which are given last one first. A dot segment at the
end leaves an empty one. -/
def addSegments (kind : SchemeKind) (before : List (List Char)) : List (List Char) →
    List (List Char)
  | [] => before.reverse
  | [last] =>
      if isDoubleDot last then ([] :: takeBack before).reverse
      else if isSingleDot last then ([] :: before).reverse
      else (settleDrive kind before last :: before).reverse
  | segment :: rest =>
      if isDoubleDot segment then addSegments kind (takeBack before) rest
      else if isSingleDot segment then addSegments kind before rest
      else addSegments kind (settleDrive kind before segment :: before) rest

def readSegments (kind : SchemeKind) (path : List Char) : List (List Char) :=
  addSegments kind [] ((splitSlashes kind path).map (percentEncode keptInPath))

/-- A file's path starts with one slash. -/
def withOneSlash : UrlPath → UrlPath
  | .rooted segments => .rooted (match segments.dropWhile List.isEmpty with
    | [] => [[]]
    | first :: rest => first :: rest)
  | path => path

end UrlPath

end Entitlement
