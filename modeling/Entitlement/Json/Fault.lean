import Entitlement.Json.Number
import Entitlement.Text.Quoted

/-!
Why a document is refused: each cause with its one wording.
-/

namespace Entitlement.Json

open Entitlement

inductive Kind where
  | null
  | bool (value : Bool)
  | number (value : Number)
  | text (value : String)
  | list
  | object
  deriving DecidableEq, Repr

inductive Wanted where
  | text
  | bool
  | int64
  | uint32
  | uint64
  | list
  | map
  | textOrMap
  | unit
  | record (name : String)
  deriving DecidableEq, Repr

inductive Fault where
  | wrongType (found : Kind) (wanted : Wanted)
  | outOfRange (value : Int) (wanted : Wanted)
  | notSingleKey
  | shortRecord (present : Nat) (name : String) (fields : Nat)
  | longList (present : Nat)
  | longBuffered (present taken : Nat)
  | unknownVariant (text : String) (known : List String)
  | noVariant (name : String)
  | missingField (name : String)
  | duplicateField (name : String)
  | endInValue
  | endInText
  | endInList
  | endInObject
  | expectedValue
  | expectedWord
  | expectedColon
  | expectedListEnd
  | expectedObjectEnd
  | keyNotText
  | trailingComma
  | trailingCharacters
  | invalidNumber
  | numberOutOfRange
  | invalidEscape
  | loneSurrogate
  | unfinishedSurrogate
  | invalidCodePoint
  | controlCharacter
  | tooDeep
  deriving DecidableEq, Repr

inductive Category where
  | data
  | malformed
  | unfinished
  deriving DecidableEq, Repr

def backticked (text : String) : String := "`" ++ text ++ "`"

namespace Kind

def message : Kind → String
  | .null => "null"
  | .bool value => "boolean " ++ backticked (toString value)
  | .number (.int value) => "integer " ++ backticked (toString value)
  | .number (.real value) => "floating point " ++ backticked (value.render realLayout)
  | .text value => "string " ++ Text.quoted value
  | .list => "sequence"
  | .object => "map"

end Kind

namespace Wanted

def message : Wanted → String
  | .text => "a string"
  | .bool => "a boolean"
  | .int64 => "i64"
  | .uint32 => "u32"
  | .uint64 => "u64"
  | .list => "a sequence"
  | .map => "a map"
  | .textOrMap => "string or map"
  | .unit => "unit"
  | .record name => "struct " ++ name

end Wanted

namespace Fault

def elements (count : Nat) : String :=
  toString count ++ (if count = 1 then " element" else " elements")

-- Two alternatives read as a choice, more as a list.
def alternatives : List String → String
  | [] => "there are no variants"
  | [one] => "expected " ++ backticked one
  | [one, other] => "expected " ++ backticked one ++ " or " ++ backticked other
  | many => "expected one of " ++ ", ".intercalate (many.map backticked)

def message : Fault → String
  | .wrongType found wanted => "invalid type: " ++ found.message ++ ", expected " ++ wanted.message
  | .outOfRange value wanted =>
      "invalid value: integer " ++ backticked (toString value) ++ ", expected " ++ wanted.message
  | .notSingleKey => "invalid value: map, expected map with a single key"
  | .shortRecord present name fields =>
      "invalid length " ++ toString present ++ ", expected struct " ++ name ++ " with "
        ++ elements fields
  | .longList present =>
      "invalid length " ++ toString present ++ ", expected fewer elements in array"
  | .longBuffered present taken =>
      "invalid length " ++ toString present ++ ", expected " ++ elements taken ++ " in sequence"
  | .unknownVariant text known =>
      "unknown variant " ++ backticked text ++ ", " ++ alternatives known
  | .noVariant name => "data did not match any variant of untagged enum " ++ name
  | .missingField name => "missing field " ++ backticked name
  | .duplicateField name => "duplicate field " ++ backticked name
  | .endInValue => "EOF while parsing a value"
  | .endInText => "EOF while parsing a string"
  | .endInList => "EOF while parsing a list"
  | .endInObject => "EOF while parsing an object"
  | .expectedValue => "expected value"
  | .expectedWord => "expected ident"
  | .expectedColon => "expected `:`"
  | .expectedListEnd => "expected `,` or `]`"
  | .expectedObjectEnd => "expected `,` or `\x7d`"
  | .keyNotText => "key must be a string"
  | .trailingComma => "trailing comma"
  | .trailingCharacters => "trailing characters"
  | .invalidNumber => "invalid number"
  | .numberOutOfRange => "number out of range"
  | .invalidEscape => "invalid escape"
  | .loneSurrogate => "lone leading surrogate in hex escape"
  | .unfinishedSurrogate => "unexpected end of hex escape"
  | .invalidCodePoint => "invalid unicode code point"
  | .controlCharacter => "control character (\\u0000-\\u001F) found while parsing a string"
  | .tooDeep => "recursion limit exceeded"

/-- Whether the text ends too early, is no JSON, or is JSON of a shape that was not wanted. -/
def category : Fault → Category
  | .endInValue | .endInText | .endInList | .endInObject => .unfinished
  | .expectedValue | .expectedWord | .expectedColon | .expectedListEnd | .expectedObjectEnd
  | .keyNotText | .trailingComma | .trailingCharacters | .invalidNumber | .numberOutOfRange
  | .invalidEscape | .loneSurrogate | .unfinishedSurrogate | .invalidCodePoint
  | .controlCharacter | .tooDeep => .malformed
  | _ => .data

end Fault

end Entitlement.Json
