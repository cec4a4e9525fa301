/-!
# Decimals

A decimal is an integer number of units of its last place. Its text has no exponent, no leading
zero but the one before the point, and a point only when there are places behind it.
-/

namespace ShapeOutline

/-- The number `units / 10 ^ places`. -/
structure Decimal where
  units : Int
  places : Nat
deriving Repr, DecidableEq

namespace Decimal

/-- Removes zeros from the end of the fraction: from `places` places of `units`, the units and
places that are left. -/
def reduced (units : Int) : Nat → Decimal
  | 0 => ⟨units, 0⟩
  | places + 1 => if units % 10 = 0 then reduced (units / 10) places else ⟨units, places + 1⟩

/-- The same number with as few places as it needs. -/
def reduce (d : Decimal) : Decimal := reduced d.units d.places

/-- The digits of `n`, with zeros in front up to `width` of them. -/
def padded (width n : Nat) : List Char :=
  let digits := Nat.toDigits 10 n
  List.replicate (width - digits.length) '0' ++ digits

/-- The text of the magnitude: whole part, and behind a point the places. -/
def magnitudeChars (n places : Nat) : List Char :=
  let unit := Nat.pow 10 places
  let whole := Nat.toDigits 10 (n / unit)
  if places = 0 then whole else whole ++ '.' :: padded places (n % unit)

/-- The text of a decimal, all its places written. -/
def chars (d : Decimal) : List Char :=
  if d.units < 0 then '-' :: magnitudeChars d.units.natAbs d.places
  else magnitudeChars d.units.natAbs d.places

end Decimal

end ShapeOutline
