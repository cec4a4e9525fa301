import ShapeOutline.Point

/-!
# Elliptical arcs

Angles are degrees, growing clockwise from three o'clock. They are parametric: the point of an
ellipse at angle `t` is `(cx + rx * cos t, cy + ry * sin t)`. The direction in which that point is
seen from the centre is another angle unless the radii agree; `parametricAngle` converts.

* `sinCos`: sine and cosine, exact on the axes;
* `ellipsePoint`, `parametricAngle`, `clockwiseSweep`;
* `Arc`: a piece of an ellipse, travelled from `start` to `stop`.
-/

namespace ShapeOutline

open Scalar (tolerance)

variable {α : Type} [Scalar α]

/-- Sine and cosine of an angle in degrees. On the axes they are exact. -/
def sinCos (deg : α) : α × α :=
  let quarter := deg / 90
  if Scalar.isWhole quarter then
    let turn := Scalar.remEuclid quarter 4
    if turn == 0 then (0, 1)
    else if turn == 1 then (1, 0)
    else if turn == 2 then (0, -1)
    else (-1, 0)
  else
    let r := Scalar.radians deg
    (Scalar.sin r, Scalar.cos r)

/-- The point of an ellipse at a parametric angle. -/
def ellipsePoint (center : Point α) (rx ry deg : α) : Point α :=
  let sc := sinCos deg
  center + ⟨rx * sc.2, ry * sc.1⟩

/-- The clockwise way from `start` to `stop`, between no turn and a full one. Angles that are full
turns apart, but not equal, are a full turn apart. -/
def clockwiseSweep (start stop : α) : α :=
  let raw := stop - start
  if Scalar.abs raw < tolerance then 0
  else
    let sweep := Scalar.remEuclid raw 360
    if sweep < tolerance ∨ 360 - sweep < tolerance then 360 else sweep

/-- The parametric angle at which a point of an ellipse is seen from its centre in direction `deg`.
It stays within a quarter turn of `deg`, so that sweeps keep their sign and full turns stay full
turns. -/
def parametricAngle (deg rx ry : α) : α :=
  if rx ≤ 0 ∨ ry ≤ 0 ∨ Scalar.abs (rx - ry) < tolerance ∨ Scalar.isWhole (deg / 90) then deg
  else
    let sc := sinCos deg
    let t := Scalar.degrees (Scalar.atan2 (rx * sc.1) (ry * sc.2))
    t + 360 * Scalar.round ((deg - t) / 360)

/-- A piece of an ellipse between two parametric angles. Travel is clockwise when `stop` exceeds
`start`. -/
structure Arc (α : Type) where
  center : Point α
  rx : α
  ry : α
  start : α
  stop : α

namespace Arc

/-- The clockwise way from start to stop. -/
def sweep (a : Arc α) : α := clockwiseSweep a.start a.stop

/-- Whether the clockwise way is more than half a turn. -/
def isLarge (a : Arc α) : Bool := 180 < a.sweep

/-- Whether the radii span no ellipse. -/
def isDegenerate (a : Arc α) : Bool :=
  !(0 < a.rx && 0 < a.ry && Scalar.isFinite a.rx && Scalar.isFinite a.ry)

/-- The point at a parametric angle. -/
def pointAt (a : Arc α) (deg : α) : Point α := ellipsePoint a.center a.rx a.ry deg

/-- Where the arc begins. -/
def startPoint (a : Arc α) : Point α := a.pointAt a.start

/-- Where the clockwise way ends. -/
def clockwiseEnd (a : Arc α) : Point α := a.pointAt (a.start + a.sweep)

/-- The arc that takes the clockwise way. -/
def clockwise (a : Arc α) : Arc α := { a with stop := a.start + a.sweep }

end Arc

end ShapeOutline
