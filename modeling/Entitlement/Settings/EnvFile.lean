import Entitlement.Settings.Environment
import Entitlement.Text.Alphanumeric

/-!
Files that set environment variables, one assignment a line. A value may be quoted, and a quoted
one may go on over several lines; outside single quotes `$NAME` and `${NAME}` stand for the value of
a variable. Variables that are set already keep their values. The first line that is no assignment
ends the reading; what was set before it stays set. A value with a NUL character ends everything, as
no environment can hold it.
-/

namespace Entitlement.EnvFile

open Text

def isBlank (c : Char) : Bool :=
  (9 ≤ c.toNat && c.toNat ≤ 13) || (0x2000 ≤ c.toNat && c.toNat ≤ 0x200A)
    || [0x20, 0x85, 0xA0, 0x1680, 0x2028, 0x2029, 0x202F, 0x205F, 0x3000].contains c.toNat

def trimStart (text : List Char) : List Char := text.dropWhile isBlank

def trimEnd (text : List Char) : List Char := (text.reverse.dropWhile isBlank).reverse

-- Lines

/-- Where a line stands: in quotes, behind a backslash, or behind a blank, where a comment may
start. -/
inductive Place where
  | plain
  | afterBlank
  | escaped
  | single
  | singleEscaped
  | double
  | doubleEscaped
  deriving DecidableEq, Repr

namespace Place

-- Outside quotes.
def opened (c : Char) : Place :=
  if c = '\\' then .escaped
  else if c = '\x22' then .double
  else if c = '\x27' then .single
  else .plain

def next (place : Place) (c : Char) : Place :=
  match place with
  | .plain => if isBlank c && c != '\n' && c != '\r' then .afterBlank else opened c
  | .afterBlank => opened c
  | .escaped => .plain
  | .single => if c = '\\' then .singleEscaped else if c = '\x27' then .plain else .single
  | .singleEscaped => .single
  | .double => if c = '\\' then .doubleEscaped else if c = '\x22' then .plain else .double
  | .doubleEscaped => .double

end Place

def scan : Place → List Char → List Char ⊕ Place
  | place, [] => .inr place
  | place, c :: rest =>
      if place = .afterBlank && c == '#' then .inl []
      else match scan (place.next c) rest with
        | .inl before => .inl (c :: before)
        | .inr ending => .inr ending

def rawLines : List Char → List (List Char)
  | [] => []
  | c :: rest =>
      if c = '\n' then [c] :: rawLines rest
      else match rawLines rest with
        | [] => [[c]]
        | line :: lines => (c :: line) :: lines

def withoutBreak (line : List Char) : List Char :=
  match line.reverse with
  | '\n' :: '\r' :: rest => rest.reverse
  | '\n' :: rest => rest.reverse
  | _ => line

/-- The lines in which assignments are written, quoted line breaks kept within them; `none` for one
that never ends. -/
def assignmentLines (held : List Char) (place : Place) :
    List (List Char) → List (Option (List Char))
  | [] => if place = .plain then [] else [none]
  | raw :: rest =>
      let line := held ++ raw
      if (trimStart line).head? = some '#' then some [] :: assignmentLines [] .plain rest
      else match scan place raw with
        | .inl before => some (held ++ before) :: assignmentLines [] .plain rest
        | .inr .plain => some (withoutBreak line) :: assignmentLines [] .plain rest
        | .inr ending => assignmentLines line ending rest

-- Values

structure Known where
  environment : Environment
  given : Dict String

namespace Known

/-- The value of a variable; that of the environment wins. An unknown one is empty. -/
def valueOf (known : Known) (name : List Char) : List Char :=
  let name := String.ofList name
  (((known.environment.text? name).or (known.given.get? name)).getD "").toList

/-- The variable is set in the file. In the environment it keeps the value it has; `none` if it has
none and the environment cannot hold the new one. -/
def assign? (known : Known) (name value : String) : Option Known :=
  let given := known.given.insert name value
  if (known.environment.text? name).isSome then some { known with given }
  else if value.contains '\x00' then none
  else some ⟨known.environment.set name value, given⟩

end Known

inductive Reference where
  | bare (name : List Char)
  | braced (name : List Char)
  deriving DecidableEq, Repr

structure Reader where
  isSingle : Bool
  isDouble : Bool
  isEscaped : Bool
  isEnded : Bool
  reference : Option Reference
  output : List Char

def Reader.start : Reader := ⟨false, false, false, false, none, []⟩

def unescaped? (c : Char) : Option Char :=
  if c = 'n' then some '\n'
  else if ['\\', '\x27', '\x22', '$', ' '].contains c then some c
  else none

namespace Reader

def put (reader : Reader) (text : List Char) : Reader :=
  { reader with output := reader.output ++ text }

def refer (reader : Reader) (reference : Option Reference) : Reader :=
  { reader with reference }

-- A character outside quotes, escapes and references.
def plainChar (reader : Reader) (c : Char) : Reader :=
  if c = '$' then reader.refer (some (.bare []))
  else if c = '\\' then { reader with isEscaped := true }
  else if reader.isDouble then
    if c = '\x22' then { reader with isDouble := false } else reader.put [c]
  else if c = '\x27' then { reader with isSingle := true }
  else if c = '\x22' then { reader with isDouble := true }
  else if c = ' ' || c = '\t' then { reader with isEnded := true }
  else reader.put [c]

-- A name without braces ends at the first character that cannot be part of it.
def referenceChar (known : Known) (reader : Reader) (c : Char) : Reference → Reader
  | .bare name =>
      if isAlphanumeric c then reader.refer (some (.bare (name ++ [c])))
      else if c = '\x7b' && name.isEmpty then reader.refer (some (.braced []))
      else
        let ended := reader.put (known.valueOf name)
        if c = '$' then ended.refer (some (.bare [])) else (ended.refer none).put [c]
  | .braced name =>
      if c = '\x7d' then (reader.refer none).put (known.valueOf name)
      else reader.refer (some (.braced (name ++ [c])))

def step? (known : Known) (reader : Reader) (c : Char) : Option Reader :=
  if reader.isEscaped then
    (unescaped? c).map fun c => { reader.put [c] with isEscaped := false }
  else if reader.isSingle then
    some (if c = '\x27' then { reader with isSingle := false } else reader.put [c])
  else match reader.reference with
    | some reference => some (reader.referenceChar known c reference)
    | none => some (reader.plainChar c)

def finish? (known : Known) (reader : Reader) : Option (List Char) :=
  if reader.isSingle || reader.isDouble then none
  else match reader.reference with
    | some (.braced _) => none
    | some (.bare name) => some (reader.output ++ known.valueOf name)
    | none => some reader.output

/-- Reads a value. Behind a blank only blanks and a comment may follow. -/
def read? (known : Known) (reader : Reader) : List Char → Option (List Char)
  | [] => reader.finish? known
  | c :: rest =>
      if reader.isEnded then
        if c = ' ' || c = '\t' then read? known reader rest
        else if c = '#' then reader.finish? known
        else none
      else do read? known (← reader.step? known c) rest

end Reader

-- Assignments

def startsKey (c : Char) : Bool := c.isAlpha || c == '_'

def isKeyChar (c : Char) : Bool := c.isAlphanum || c == '_' || c == '.'

def key? (line : List Char) : Option (List Char × List Char) :=
  if line.head?.any startsKey then
    some (line.takeWhile isKeyChar, trimStart (line.dropWhile isKeyChar))
  else none

def afterEquals? : List Char → Option (List Char)
  | '=' :: rest => some rest
  | _ => none

/-- The name that a line assigns to and what follows the equals sign. The word `export` may stand in
front of the name. -/
def target? (line : List Char) : Option (String × List Char) := do
  let (key, rest) ← key? line
  match afterEquals? rest with
  | some value => return (String.ofList key, value)
  | none =>
      if key = "export".toList then
        let (key, rest) ← key? rest
        return (String.ofList key, ← afterEquals? rest)
      else none

def isVoid (text : List Char) : Bool := text.isEmpty || text.head? == some '#'

/-- The assignment of a line: nothing for a blank line or a comment, `none` if it is refused. -/
def assignment? (known : Known) (line : List Char) : Option (Option (String × String)) :=
  let line := trimStart (trimEnd line)
  if isVoid line then some none
  else do
    let (name, rest) ← target? line
    let rest := trimStart rest
    if isVoid rest then return some (name, "")
    else return some (name, String.ofList (← Reader.start.read? known rest))

def loadLines (known : Known) : List (Option (List Char)) → Option Known
  | [] => some known
  | none :: _ => some known
  | some line :: rest =>
      match assignment? known line with
      | none => some known
      | some none => loadLines known rest
      | some (some (name, value)) => do loadLines (← known.assign? name value) rest

def withoutMark : List Char → List Char
  | '\uFEFF' :: rest => rest
  | text => text

def load? (environment : Environment) (file : String) : Option Environment :=
  (loadLines ⟨environment, .empty⟩
    (assignmentLines [] .plain (rawLines (withoutMark file.toList)))).map Known.environment

end Entitlement.EnvFile
