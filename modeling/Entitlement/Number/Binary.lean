/-!
Binary floating-point numbers of 53 significant bits, in exact arithmetic on natural numbers. A
number is rounded once per operation, to the nearest neighbour and to the even one on a tie.
-/

namespace Entitlement.Number

/-- The value `mantissa * 2 ^ exponent`. -/
structure Magnitude where
  mantissa : Nat
  exponent : Int
  deriving DecidableEq, Repr

/-- A finite number; zero keeps its sign. -/
structure Double where
  negative : Bool
  magnitude : Magnitude
  deriving DecidableEq, Repr

def leastExponent : Int := -1074
def greatestExponent : Int := 971
def mantissaBits : Nat := 53

/-- The quotient rounded to the nearest natural number, a half to the even one. -/
def roundEven (num den : Nat) : Nat :=
  let floor := num / den
  let twice := 2 * (num % den)
  if twice < den then floor
  else if den < twice then floor + 1
  else floor + floor % 2

-- The quotient `num / den` divided by `2 ^ exponent`, again as a pair.
def overPower (num den : Nat) (exponent : Int) : Nat × Nat :=
  if 0 ≤ exponent then (num, den * Nat.pow 2 exponent.toNat)
  else (num * Nat.pow 2 (-exponent).toNat, den)

namespace Magnitude

def zero : Magnitude := ⟨0, leastExponent⟩

def isZero (m : Magnitude) : Bool := m.mantissa == 0

def numerator (m : Magnitude) : Nat := m.mantissa * Nat.pow 2 m.exponent.toNat

def denominator (m : Magnitude) : Nat := Nat.pow 2 (-m.exponent).toNat

/-- The nearest magnitude to a quotient, `none` when it is beyond all finite ones. -/
def nearest? (num den : Nat) : Option Magnitude :=
  if num = 0 then some zero
  else
    -- With this exponent the quotient has 53 or 54 bits, or the exponent is the least one.
    let guess := max leastExponent ((num.log2 : Int) - den.log2 - mantissaBits)
    let wide := overPower num den guess
    let exponent := if wide.1 / wide.2 < Nat.pow 2 mantissaBits then guess else guess + 1
    let scaled := overPower num den exponent
    let mantissa := roundEven scaled.1 scaled.2
    let rounded : Magnitude :=
      if mantissa = Nat.pow 2 mantissaBits then ⟨Nat.pow 2 (mantissaBits - 1), exponent + 1⟩
      else ⟨mantissa, exponent⟩
    if greatestExponent < rounded.exponent then none else some rounded

def times? (a b : Magnitude) : Option Magnitude :=
  nearest? (a.numerator * b.numerator) (a.denominator * b.denominator)

def over? (a b : Magnitude) : Option Magnitude :=
  nearest? (a.numerator * b.denominator) (a.denominator * b.numerator)

def powerOfTen (power : Nat) : Magnitude :=
  (nearest? (Nat.pow 10 power) 1).getD zero

def greatestPower : Nat := 308

-- Divides by the greatest power of ten, several times over.
def shrink? (m : Magnitude) : Nat → Option Magnitude
  | 0 => some m
  | times + 1 =>
      if m.isZero then some m
      else (m.over? (powerOfTen greatestPower)).bind fun smaller => smaller.shrink? times

/-- Multiplies by a power of ten: one rounded product or quotient as long as the power itself has a
magnitude, and quotients by the greatest one first for smaller powers. -/
def scale? (m : Magnitude) (power : Int) : Option Magnitude :=
  if m.isZero then some m
  else if 0 ≤ power then
    if power ≤ greatestPower then m.times? (powerOfTen power.toNat) else none
  else
    let places := (-power).toNat
    let chunks := (places - 1) / greatestPower
    (m.shrink? chunks).bind fun smaller =>
      smaller.over? (powerOfTen (places - chunks * greatestPower))

end Magnitude

namespace Double

def ofDecimal? (negative : Bool) (significand : Nat) (power : Int) : Option Double :=
  ((Magnitude.nearest? significand 1).bind fun m => m.scale? power).map (⟨negative, ·⟩)

end Double

end Entitlement.Number
