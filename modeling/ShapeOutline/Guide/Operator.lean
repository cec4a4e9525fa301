import ShapeOutline.Scalar

/-!
# Guide operators

The operators of the guide language, each with its token and the number of its operands. Angles are
counted in 60000ths of a degree.
-/

namespace ShapeOutline

/-- The operators of the guide language. -/
inductive Operator where
  /-- `x * y / z` -/
  | mulDiv
  /-- `x + y - z` -/
  | addSub
  /-- `(x + y) / z` -/
  | addDiv
  /-- `y` when `x` is positive, else `z` -/
  | ifElse
  | abs
  /-- the direction of `(x, y)` -/
  | at2
  /-- `x` times the cosine of the direction of `(y, z)` -/
  | cat2
  | cos
  | max
  | min
  /-- the length of `(x, y, z)` -/
  | mod
  /-- `y`, moved between `x` and `z` -/
  | pin
  /-- `x` times the sine of the direction of `(y, z)` -/
  | sat2
  | sin
  | sqrt
  | tan
  | val
deriving DecidableEq, Repr

namespace Operator

/-- The text of the operator. -/
def token : Operator → String
  | mulDiv => "*/"
  | addSub => "+-"
  | addDiv => "+/"
  | ifElse => "?:"
  | abs => "abs"
  | at2 => "at2"
  | cat2 => "cat2"
  | cos => "cos"
  | max => "max"
  | min => "min"
  | mod => "mod"
  | pin => "pin"
  | sat2 => "sat2"
  | sin => "sin"
  | sqrt => "sqrt"
  | tan => "tan"
  | val => "val"

/-- The operators that take any number of operands as far as reading goes: all but `val`. -/
def listed : List Operator :=
  [mulDiv, addSub, addDiv, ifElse, abs, at2, cat2, cos, max, min, mod, pin, sat2, sin, sqrt, tan]

/-- How many operands the operator takes. -/
def arity : Operator → Nat
  | abs | sqrt | val => 1
  | at2 | cos | max | min | sin | tan => 2
  | mulDiv | addSub | addDiv | ifElse | cat2 | mod | pin | sat2 => 3

variable {α : Type} [Scalar α]

/-- An angle of the guide language in radians. -/
def angleRadians (units : α) : α := Scalar.radians (units / 60000)

/-- An angle in radians in the units of the guide language. -/
def angleUnits (radians : α) : α := Scalar.degrees radians * 60000

/-- The operator applied to its operands; nothing when their number is not its arity. -/
def value? : Operator → List α → Option α
  | mulDiv, [x, y, z] => some (if z == 0 then 0 else x * y / z)
  | addSub, [x, y, z] => some (x + y - z)
  | addDiv, [x, y, z] => some (if z == 0 then 0 else (x + y) / z)
  | ifElse, [x, y, z] => some (if 0 < x then y else z)
  | abs, [x] => some (Scalar.abs x)
  | at2, [x, y] => some (angleUnits (Scalar.atan2 y x))
  | cat2, [x, y, z] => some (x * Scalar.cos (Scalar.atan2 z y))
  | cos, [x, y] => some (x * Scalar.cos (angleRadians y))
  | max, [x, y] => some (Scalar.max x y)
  | min, [x, y] => some (Scalar.min x y)
  | mod, [x, y, z] => some (Scalar.sqrt (x * x + y * y + z * z))
  | pin, [x, y, z] => some (Scalar.pin x y z)
  | sat2, [x, y, z] => some (x * Scalar.sin (Scalar.atan2 z y))
  | sin, [x, y] => some (x * Scalar.sin (angleRadians y))
  | sqrt, [x] => some (Scalar.sqrt x)
  | tan, [x, y] => some (x * Scalar.tan (angleRadians y))
  | val, [x] => some x
  | _, _ => none

end Operator

end ShapeOutline
