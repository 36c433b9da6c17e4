import Entitlement.Json.Fault
import Entitlement.Text.Utf8

/-!
The words of JSON text: blanks, literal words, numerals and quoted texts. A quoted text is read in
two ways. Reading gives its characters and refuses what is no character; skipping only looks for
its end. The two refuse different texts, and both answers are needed.
-/

namespace Entitlement.Json

open Entitlement.Text

def isBlank (c : Char) : Bool :=
  c = ' ' || c = '\n' || c = '\t' || c = '\r'

def skipBlank : List Piece → List Piece
  | .char c :: rest => if isBlank c then skipBlank rest else .char c :: rest
  | pieces => pieces

def readWord : List Char → List Piece → Except Fault (List Piece)
  | [], pieces => .ok pieces
  | _ :: _, [] => .error .endInValue
  | wanted :: more, piece :: rest =>
      if piece = .char wanted then readWord more rest else .error .expectedWord

-- Numerals

def digit? : Piece → Option Nat
  | .char c => if c.isDigit then some (c.toNat - 48) else none
  | .damage _ => none

def takeDigits : List Piece → List Nat × List Piece
  | [] => ([], [])
  | piece :: rest =>
      match digit? piece with
      | some digit =>
          let more := takeDigits rest
          (digit :: more.1, more.2)
      | none => ([], piece :: rest)

/-- Why no numeral can be read. The end of the text inside a numeral is told apart only when the
number is wanted. -/
structure NumeralFault where
  whenRead : Fault
  whenSkipped : Fault

def atEnd : NumeralFault := ⟨.endInValue, .invalidNumber⟩
def malformed : NumeralFault := ⟨.invalidNumber, .invalidNumber⟩

def noDigits (rest : List Piece) : NumeralFault :=
  if rest.isEmpty then atEnd else malformed

-- A zero stands alone before the point.
def wholePart (pieces : List Piece) : Except NumeralFault (List Nat × List Piece) :=
  let (digits, rest) := takeDigits pieces
  match digits with
  | [] => .error (noDigits rest)
  | [digit] => .ok ([digit], rest)
  | 0 :: _ => .error malformed
  | digits => .ok (digits, rest)

def fractionPart : List Piece → Except NumeralFault (Option (List Nat) × List Piece)
  | .char '.' :: rest =>
      let (digits, after) := takeDigits rest
      if digits.isEmpty then .error (noDigits after) else .ok (some digits, after)
  | pieces => .ok (none, pieces)

def exponentSign : List Piece → Bool × List Piece
  | .char '+' :: rest => (false, rest)
  | .char '-' :: rest => (true, rest)
  | pieces => (false, pieces)

def exponentDigits (pieces : List Piece) :
    Except NumeralFault (Option (Bool × List Nat) × List Piece) :=
  let (negative, rest) := exponentSign pieces
  let (digits, after) := takeDigits rest
  if digits.isEmpty then .error (noDigits after) else .ok (some (negative, digits), after)

def exponentPart : List Piece → Except NumeralFault (Option (Bool × List Nat) × List Piece)
  | .char 'e' :: rest => exponentDigits rest
  | .char 'E' :: rest => exponentDigits rest
  | pieces => .ok (none, pieces)

def readNumeral (negative : Bool) (pieces : List Piece) :
    Except NumeralFault (Numeral × List Piece) := do
  let (whole, rest) ← wholePart pieces
  let (fraction, rest) ← fractionPart rest
  let (exponent, rest) ← exponentPart rest
  return (⟨negative, whole, fraction, exponent⟩, rest)

-- Quoted texts

def hexDigitOf? : Piece → Option Nat
  | .char c =>
      if '0' ≤ c ∧ c ≤ '9' then some (c.toNat - 48)
      else if 'a' ≤ c ∧ c ≤ 'f' then some (c.toNat - 87)
      else if 'A' ≤ c ∧ c ≤ 'F' then some (c.toNat - 55)
      else none
  | .damage _ => none

def hexWord? (a b c d : Piece) : Option Nat := do
  let a ← hexDigitOf? a
  let b ← hexDigitOf? b
  let c ← hexDigitOf? c
  let d ← hexDigitOf? d
  return ((a * 16 + b) * 16 + c) * 16 + d

/-- Fewer than four pieces follow: four bytes that are no digits are an invalid escape, fewer bytes
are the end of the text. -/
def shortEscape (rest : List Piece) : Fault :=
  if 4 ≤ rest.foldl (fun width piece => width + piece.width) 0 then .invalidEscape else .endInText

def simpleEscape? (c : Char) : Option Char :=
  if c = '\x22' then some '\x22'
  else if c = '\\' then some '\\'
  else if c = '/' then some '/'
  else if c = 'b' then some '\x08'
  else if c = 'f' then some '\x0c'
  else if c = 'n' then some '\n'
  else if c = 'r' then some '\r'
  else if c = 't' then some '\t'
  else none

def isLeading (word : Nat) : Bool := 0xD800 ≤ word && word ≤ 0xDBFF
def isTrailing (word : Nat) : Bool := 0xDC00 ≤ word && word ≤ 0xDFFF

def joinSurrogates (leading trailing : Nat) : Char :=
  Char.ofNat ((leading - 0xD800) * 0x400 + (trailing - 0xDC00) + 0x10000)

/-- Reads a text after its opening quote: its characters and what follows the closing quote. Damage
is reported once the closing quote is found. -/
def readTextFrom (taken : List Char) (damaged : Bool) :
    List Piece → Except Fault (String × List Piece)
  | [] => .error .endInText
  | .damage _ :: rest => readTextFrom taken true rest
  | .char c :: rest =>
      if c = '\x22' then
        if damaged then .error .invalidCodePoint
        else .ok (String.ofList taken.reverse, rest)
      else if c.toNat < 0x20 then .error .controlCharacter
      else if c ≠ '\\' then readTextFrom (c :: taken) damaged rest
      else match rest with
        | [] => .error .endInText
        | .damage _ :: _ => .error .invalidEscape
        | .char e :: rest =>
            if e ≠ 'u' then
              match simpleEscape? e with
              | some c => readTextFrom (c :: taken) damaged rest
              | none => .error .invalidEscape
            else match rest with
              | p :: q :: r :: s :: rest =>
                  match hexWord? p q r s with
                  | none => .error .invalidEscape
                  | some word =>
                      if isTrailing word then .error .loneSurrogate
                      else if !isLeading word then
                        readTextFrom (Char.ofNat word :: taken) damaged rest
                      else match rest with
                        | [] => .error .endInText
                        | next :: rest =>
                            if next ≠ .char '\\' then .error .unfinishedSurrogate
                            else match rest with
                              | [] => .error .endInText
                              | next :: rest =>
                                  if next ≠ .char 'u' then .error .unfinishedSurrogate
                                  else match rest with
                                    | p :: q :: r :: s :: rest =>
                                        match hexWord? p q r s with
                                        | none => .error .invalidEscape
                                        | some second =>
                                            if isTrailing second then
                                              readTextFrom (joinSurrogates word second :: taken)
                                                damaged rest
                                            else .error .loneSurrogate
                                    | rest => .error (shortEscape rest)
              | rest => .error (shortEscape rest)

def readText (pieces : List Piece) : Except Fault (String × List Piece) :=
  readTextFrom [] false pieces

/-- Skips a text after its opening quote. Escapes must be well formed; what they stand for is not
looked at. -/
def skipText : List Piece → Except Fault (List Piece)
  | [] => .error .endInText
  | .damage _ :: rest => skipText rest
  | .char c :: rest =>
      if c = '\x22' then .ok rest
      else if c.toNat < 0x20 then .error .controlCharacter
      else if c ≠ '\\' then skipText rest
      else match rest with
        | [] => .error .endInText
        | .damage _ :: _ => .error .invalidEscape
        | .char e :: rest =>
            if e ≠ 'u' then
              if (simpleEscape? e).isSome then skipText rest else .error .invalidEscape
            else match rest with
              | p :: q :: r :: s :: rest =>
                  if (hexWord? p q r s).isSome then skipText rest else .error .invalidEscape
              | rest => .error (shortEscape rest)

end Entitlement.Json
