import ShapeOutline.Scalar
import ShapeOutline.Binary64.Exact

/-!
# Arithmetic over binary64 numbers

The arithmetic that the program runs: outlines and paint over floating-point numbers.
-/

namespace ShapeOutline

instance Binary64.scalar : Scalar Float where
  beq := Float.beq
  ofNat := Float.ofNat
  ofScientific := Float.ofScientific
  pi := 3.141592653589793
  abs := Float.abs
  min := Binary64.lesser
  max := Binary64.greater
  sqrt := Float.sqrt
  hypot := Binary64.hypotenuse
  sin := Float.sin
  cos := Float.cos
  tan := Float.tan
  atan2 := Float.atan2
  round := Float.round
  trunc := Binary64.truncate
  rem := Binary64.remainder
  isFinite := Float.isFinite
  isNaN := Float.isNaN
  ltDecidable := Float.decLt
  leDecidable := Float.decLe
  magnitude x := x.abs.log10.floor.toInt64.toInt
  powerOfTen := Binary64.powerOfTen
  units places x := Binary64.decimalUnits places x

end ShapeOutline
