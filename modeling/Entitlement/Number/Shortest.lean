import Entitlement.Number.Binary

/-!
The shortest decimal text that reads back as the same number, and of those the nearest one.
-/

namespace Entitlement.Number

/-- The value `digits * 10 ^ power`. -/
structure Decimal where
  digits : Nat
  power : Int
  deriving DecidableEq, Repr

def digitCount (n : Nat) : Nat := (Nat.toDigits 10 n).length

def quotientOf (digits : Nat) (power : Int) : Nat × Nat :=
  if 0 ≤ power then (digits * Nat.pow 10 power.toNat, 1) else (digits, Nat.pow 10 (-power).toNat)

namespace Magnitude

-- The ends of the interval of reals that round to the magnitude, in quarters of its last place.
-- Below a power of two the neighbour is half as far away.
def interval (m : Magnitude) : Nat × Nat :=
  let below :=
    if m.mantissa = Nat.pow 2 (mantissaBits - 1) ∧ leastExponent < m.exponent then 1 else 2
  (4 * m.mantissa - below, 4 * m.mantissa + 2)

def quarters (m : Magnitude) (count : Nat) : Nat × Nat :=
  let quarter : Magnitude := ⟨count, m.exponent - 2⟩
  (quarter.numerator, quarter.denominator)

/-- Whether a decimal rounds to the magnitude. The ends of its interval do if the mantissa is
even. -/
def holds (m : Magnitude) (d : Decimal) : Bool :=
  let low := m.quarters m.interval.1
  let high := m.quarters m.interval.2
  let value := quotientOf d.digits d.power
  let lower := low.1 * value.2
  let upper := high.1 * value.2
  if m.mantissa % 2 = 0 then lower ≤ value.1 * low.2 && value.1 * high.2 ≤ upper
  else lower < value.1 * low.2 && value.1 * high.2 < upper

-- The power of ten of the leading digit.
def leadingPower (m : Magnitude) : Int :=
  if m.denominator ≤ m.numerator then (digitCount (m.numerator / m.denominator) : Int) - 1
  else -(digitCount ((m.denominator - 1) / m.numerator) : Int)

/-- The decimal on a grid that rounds to the magnitude: the nearer of its two neighbours on the
grid, the even one on a tie. -/
def onGrid? (m : Magnitude) (power : Int) : Option Decimal :=
  let unit := quotientOf 1 power
  let num := m.numerator * unit.2
  let den := m.denominator * unit.1
  let lower : Decimal := ⟨num / den, power⟩
  let upper : Decimal := ⟨num / den + 1, power⟩
  match m.holds lower, m.holds upper with
  | true, true => some ⟨roundEven num den, power⟩
  | true, false => some lower
  | false, true => some upper
  | false, false => none

def shortestFrom (m : Magnitude) (power : Int) : Nat → Decimal
  | 0 => ⟨m.mantissa, 0⟩
  | steps + 1 => match m.onGrid? power with
    | some d => d
    | none => m.shortestFrom (power - 1) steps

/-- The shortest decimal that rounds to the magnitude. Seventeen digits always suffice. -/
def shortest (m : Magnitude) : Decimal :=
  m.shortestFrom m.leadingPower 17

end Magnitude

structure Layout where
  leastPositional : Int
  greatestPositional : Int

def zeros (count : Nat) : String := String.ofList (List.replicate count '0')

-- Digits without trailing zeros, with the power of ten of the first one.
def Decimal.scientific (d : Decimal) : String × Int :=
  let written := Nat.toDigits 10 d.digits
  let kept := (written.reverse.dropWhile (· == '0')).reverse
  (String.ofList kept, (written.length : Int) - 1 + d.power)

/-- Writes a positive decimal: all places with a point and at least one digit after it, or one digit
before the point and a signed exponent. -/
def Decimal.render (layout : Layout) (d : Decimal) : String :=
  let (digits, leading) := d.scientific
  let count : Int := digits.length
  if layout.leastPositional ≤ leading ∧ leading ≤ layout.greatestPositional then
    if leading < 0 then "0." ++ zeros (-leading - 1).toNat ++ digits
    else if count ≤ leading + 1 then digits ++ zeros (leading + 1 - count).toNat ++ ".0"
    else
      let whole := (leading + 1).toNat
      String.ofList (digits.toList.take whole) ++ "." ++ String.ofList (digits.toList.drop whole)
  else
    let rest := String.ofList (digits.toList.drop 1)
    String.ofList (digits.toList.take 1) ++ (if rest.isEmpty then "" else "." ++ rest)
      ++ "e" ++ (if leading < 0 then "-" else "+") ++ toString leading.natAbs

def Double.render (layout : Layout) (d : Double) : String :=
  (if d.negative then "-" else "") ++
    (if d.magnitude.isZero then "0.0" else d.magnitude.shortest.render layout)

end Entitlement.Number
