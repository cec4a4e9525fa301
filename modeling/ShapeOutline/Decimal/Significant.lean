import ShapeOutline.Scalar
import ShapeOutline.Decimal

/-!
# Numbers in path and style text

A number is written with six significant digits, without an exponent and without zeros at the end
of the fraction. What is smaller than the tolerance, and what is not finite, is written as zero.
-/

namespace ShapeOutline.Scalar

variable {α : Type} [Scalar α]

/-- How many significant digits are written. -/
def significantDigits : Int := 6

/-- `x` rounded to its significant digits, halves away from zero. -/
def significant (x : α) : α :=
  let scale : α := powerOfTen (significantDigits - 1 - magnitude x)
  round (x * scale) / scale

/-- The places behind the point that hold the significant digits of `x`; none when they all stand
before it. -/
def significantPlaces (x : α) : Nat := (significantDigits - 1 - magnitude x).toNat

/-- The written form of `x`. -/
def decimal (x : α) : Decimal :=
  if abs x < tolerance || !isFinite x then ⟨0, 0⟩
  else
    let places := significantPlaces x
    Decimal.reduce ⟨units places (significant x), places⟩

/-- The characters of the written form of `x`. -/
def chars (x : α) : List Char := (decimal x).chars

/-- The written form of `x`. -/
def text (x : α) : String := String.ofList (chars x)

end ShapeOutline.Scalar
