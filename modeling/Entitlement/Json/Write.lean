import Entitlement.Json.Tree

/-!
The text of a JSON tree, compact or on indented lines. Quotes, backslashes and control characters
are escaped, everything else stands for itself.
-/

namespace Entitlement.Json

def hexDigit (value : Nat) : Char :=
  if value < 10 then Char.ofNat (48 + value) else Char.ofNat (87 + value)

def escapedChar (c : Char) : List Char :=
  if c = '\x22' then ['\\', '\x22']
  else if c = '\\' then ['\\', '\\']
  else if c = '\x08' then ['\\', 'b']
  else if c = '\x0c' then ['\\', 'f']
  else if c = '\n' then ['\\', 'n']
  else if c = '\r' then ['\\', 'r']
  else if c = '\t' then ['\\', 't']
  else if c.toNat < 0x20 then
    ['\\', 'u', '0', '0', hexDigit (c.toNat / 16), hexDigit (c.toNat % 16)]
  else [c]

def writeText (text : String) : List Char :=
  '\x22' :: (text.toList.flatMap escapedChar ++ ['\x22'])

def writeNumber : Number → List Char
  | .int value => (toString value).toList
  | .real value => (value.render realLayout).toList

namespace Tree

mutual

def chars : Tree → List Char
  | .null => ['n', 'u', 'l', 'l']
  | .bool true => ['t', 'r', 'u', 'e']
  | .bool false => ['f', 'a', 'l', 's', 'e']
  | .number value => writeNumber value
  | .text value => writeText value
  | .list items => '[' :: (itemChars items ++ [']'])
  | .object members => '\x7b' :: (memberChars members ++ ['\x7d'])

def itemChars : List Tree → List Char
  | [] => []
  | [item] => item.chars
  | item :: rest => item.chars ++ ',' :: itemChars rest

def memberChars : List (String × Tree) → List Char
  | [] => []
  | [(key, value)] => writeText key ++ ':' :: value.chars
  | (key, value) :: rest => writeText key ++ ':' :: (value.chars ++ ',' :: memberChars rest)

end

def write (tree : Tree) : String :=
  String.ofList tree.chars

-- Indented

def newLine (depth : Nat) : List Char := '\n' :: List.replicate (2 * depth) ' '

mutual

def lines (depth : Nat) : Tree → List Char
  | .list (item :: rest) =>
      '[' :: (itemLines (depth + 1) (item :: rest) ++ (newLine depth ++ [']']))
  | .object (member :: rest) =>
      '\x7b' :: (memberLines (depth + 1) (member :: rest) ++ (newLine depth ++ ['\x7d']))
  | tree => tree.chars

def itemLines (depth : Nat) : List Tree → List Char
  | [] => []
  | [item] => newLine depth ++ item.lines depth
  | item :: rest => newLine depth ++ (item.lines depth ++ ',' :: itemLines depth rest)

def memberLines (depth : Nat) : List (String × Tree) → List Char
  | [] => []
  | [(key, value)] => newLine depth ++ (writeText key ++ ':' :: ' ' :: value.lines depth)
  | (key, value) :: rest =>
      newLine depth
        ++ (writeText key ++ ':' :: ' ' :: (value.lines depth ++ ',' :: memberLines depth rest))

end

/-- The text of a tree with one item or member a line, each level indented by two blanks. -/
def writeIndented (tree : Tree) : String :=
  String.ofList (tree.lines 0)

end Tree

end Entitlement.Json
