import Entitlement.Number.Shortest

/-!
JSON numbers. A numeral without fraction and exponent that fits 64 bits is an integer; every other
one is a floating-point number, and so is negative zero.
-/

namespace Entitlement.Json

open Entitlement.Number

inductive Number where
  | int (value : Int)
  | real (value : Double)
  deriving DecidableEq, Repr

/-- A numeral as it is written: digits before the point, digits after it if there is one, and the
exponent with its sign if there is one. -/
structure Numeral where
  negative : Bool
  whole : List Nat
  fraction : Option (List Nat)
  exponent : Option (Bool × List Nat)

/-- The greatest significand, which is also the greatest integer. -/
def greatestWord : Nat := 18446744073709551615

def Numeral.fits (significand digit : Nat) : Bool :=
  significand * 10 + digit ≤ greatestWord

-- Digits are taken into the significand while it fits a word; gives the digits left over.
def Numeral.gather : Nat → List Nat → Nat × List Nat
  | significand, [] => (significand, [])
  | significand, digit :: rest =>
      if fits significand digit then gather (significand * 10 + digit) rest
      else (significand, digit :: rest)

namespace Numeral

def power (n : Numeral) : Int :=
  match n.exponent with
  | none => 0
  | some (negative, digits) =>
      let size : Int := (digits.foldl (fun value digit => value * 10 + digit) 0 : Nat)
      if negative then -size else size

/-- Significand and power of ten. Digits of the whole part that no longer fit still count as places,
digits of the fraction that no longer fit are dropped. -/
def parts (n : Numeral) : Nat × Int :=
  let whole := gather 0 n.whole
  let fraction := n.fraction.getD []
  let all := gather whole.1 fraction
  (all.1, (whole.2.length : Int) - (fraction.length - all.2.length : Nat) + n.power)

/-- Whether the numeral is a plain run of digits that fits a word. -/
def isWhole (n : Numeral) : Bool :=
  n.fraction.isNone && n.exponent.isNone && (gather 0 n.whole).2.isEmpty

/-- The number a numeral stands for; `none` beyond all finite numbers. -/
def value? (n : Numeral) : Option Number :=
  let significand := n.parts.1
  if n.isWhole && !n.negative then some (.int significand)
  else if n.isWhole && 0 < significand && significand ≤ 9223372036854775808 then
    some (.int (-significand))
  else (Double.ofDecimal? n.negative significand n.parts.2).map .real

end Numeral

/-- Floating-point numbers show all places from 0.00001 up to sixteen digits before the point. -/
def realLayout : Layout := ⟨-5, 15⟩

end Entitlement.Json
