/-!
# Arithmetic

Outlines and paint are computed over any type that has the operations of `Scalar`. Nothing is
assumed of the operations here: each formula fixes the order in which they are applied, so that it
can be run over floating-point numbers and read over the real numbers.

* `Scalar`: the operations, with literals and decidable comparisons;
* `tolerance`: lengths and angles closer than this coincide;
* `pin`, `quotient`: the two guarded operations of the guide language;
* `radians`, `degrees`, `remEuclid`, `clamp`, `isWhole`: what is built from the operations.
-/

namespace ShapeOutline

/-- The operations that outline formulas use.

`round` takes halves away from zero, `rem` has the sign of its first argument, `min` and `max` give
the other argument when one is not a number. `magnitude x` is the exponent of the leading decimal
digit of `x`, and `units p x` is `x * 10 ^ p` as an integer, halves going to the even neighbour. -/
class Scalar (α : Type) extends Add α, Sub α, Mul α, Div α, Neg α, LT α, LE α, BEq α where
  ofNat : Nat → α
  ofScientific : Nat → Bool → Nat → α
  pi : α
  abs : α → α
  min : α → α → α
  max : α → α → α
  sqrt : α → α
  hypot : α → α → α
  sin : α → α
  cos : α → α
  tan : α → α
  atan2 : α → α → α
  round : α → α
  trunc : α → α
  rem : α → α → α
  isFinite : α → Bool
  isNaN : α → Bool
  ltDecidable : (a b : α) → Decidable (a < b)
  leDecidable : (a b : α) → Decidable (a ≤ b)
  magnitude : α → Int
  powerOfTen : Int → α
  units : Nat → α → Int

variable {α : Type} [Scalar α]

instance Scalar.decidableLT (a b : α) : Decidable (a < b) := Scalar.ltDecidable a b

instance Scalar.decidableLE (a b : α) : Decidable (a ≤ b) := Scalar.leDecidable a b

instance (priority := 50) Scalar.literal (n : Nat) : OfNat α n := ⟨Scalar.ofNat n⟩

instance (priority := 50) Scalar.decimalLiteral : OfScientific α := ⟨Scalar.ofScientific⟩

namespace Scalar

/-- The scalar nearest to an integer. -/
def ofInt : Int → α
  | .ofNat n => ofNat n
  | .negSucc n => -ofNat (n + 1)

/-- Lengths and angles that differ by less than this coincide. -/
def tolerance : α := 1e-9

/-- `v`, moved to the nearer end of `lo`, `hi` when it lies outside. The lower end is tested first,
so it wins when the ends are out of order. -/
def pin (lo v hi : α) : α :=
  if v < lo then lo else if hi < v then hi else v

/-- `v` moved into `lo`, `hi`; what is not a number stays so. -/
def clamp (v lo hi : α) : α :=
  let raised := if v < lo then lo else v
  if hi < raised then hi else raised

/-- Division that yields zero for a zero divisor. -/
def quotient (n d : α) : α :=
  if d == 0 then 0 else n / d

/-- An angle in degrees, in radians. -/
def radians (d : α) : α := d * (pi / 180)

/-- An angle in radians, in degrees. -/
def degrees (r : α) : α := r * (180 / pi)

/-- The direction of `(x, y)` in degrees. -/
def direction (x y : α) : α := degrees (atan2 y x)

/-- Whether there is nothing after the point. -/
def isWhole (x : α) : Bool := x - trunc x == 0

/-- The remainder in `[0, |m|)`. -/
def remEuclid (x m : α) : α :=
  let r := rem x m
  if r < 0 then r + abs m else r

end Scalar

end ShapeOutline
