/-!
Amounts of money, counted in a decimal fraction of a unit and written with all its places.
-/

namespace Entitlement

/-- A count of parts of a unit, `10 ^ places` of which make one. -/
structure Money where
  parts : Int
  places : Nat
  deriving DecidableEq, Repr

namespace Money

-- At least one digit stands before the point.
def padded (digits : List Char) (places : Nat) : List Char :=
  List.replicate (places + 1 - digits.length) '0' ++ digits

/-- The amount as text: a minus sign below zero, the whole units, a point and every place. -/
def text (money : Money) : String :=
  let digits := padded (Nat.toDigits 10 money.parts.natAbs) money.places
  let whole := digits.take (digits.length - money.places)
  let fraction := digits.drop (digits.length - money.places)
  (if money.parts < 0 then "-" else "") ++ String.ofList whole ++ "." ++ String.ofList fraction

end Money

end Entitlement
