import ShapeOutline.Preset.Frame

/-!
# Ellipses and their parts

Ellipses, pies and chords, rings and the shapes that are bounded by elliptical arcs. Angle guides
are directions in which a point of the ellipse is seen from its centre.
-/

namespace ShapeOutline.Preset.Round

open Scalar (pin quotient direction)

variable {α : Type} [Scalar α]

/-- The clockwise way from one angle to another, a full turn when they agree. -/
def sweepBetween (start stop : α) : α :=
  let sweep := stop - start
  if 0 < sweep then sweep else sweep + 360

/-- The point of an ellipse that is seen from its centre in a direction. -/
def pointSeen (cx cy rx ry deg : α) : Point α :=
  ellipsePoint ⟨cx, cy⟩ rx ry (parametricAngle deg rx ry)

/-- Start angle and clockwise sweep from two angle guides. -/
def anglePair (f : Frame α) (first second : String) : Guided (α × α) := do
  let start := pin 0 (← f.angle first) 359.99998
  let stop := pin 0 (← f.angle second) 359.99998
  return (start, sweepBetween start stop)

/-- The ellipse that touches the sides of the box. -/
def ellipse (f : Frame α) : Path α := .drawn (Instruction.ellipse f.hc f.vc f.wd2 f.hd2)

/-- An ellipse whose upper right quarter is drawn out to a tip. -/
def teardrop (f : Frame α) : Guided (Path α) := do
  let a := pin 0 (← f.adj "adj") 200000
  let r2 : α := Scalar.sqrt 2
  let sw := r2 * f.wd2 * a / 100000
  let sh := r2 * f.hd2 * a / 100000
  let (s45, c45) := sinCos (45 : α)
  let x1 := f.hc + sw * c45
  let y1 := f.vc - sh * s45
  let x2 := (f.hc + x1) / 2
  let y2 := (f.vc + y1) / 2
  return .drawn
    [.moveTo 0 f.vc, .arcTo f.wd2 f.hd2 180 90, .quadTo x2 0 x1 y1, .quadTo f.w y2 f.w f.vc,
      .arcTo f.wd2 f.hd2 0 90, .arcTo f.wd2 f.hd2 90 90, .close]

/-- A quarter of an ellipse. -/
def pieWedge (f : Frame α) : Path α :=
  .drawn [.moveTo 0 f.h, .arcTo f.w f.h 180 90, .lineTo f.w f.h, .close]

/-- A sector of the ellipse. -/
def pie (f : Frame α) : Guided (Path α) := do
  let (start, sweep) ← anglePair f "adj1" "adj2"
  let p := pointSeen f.hc f.vc f.wd2 f.hd2 start
  return .drawn [.moveTo p.x p.y, .arcTo f.wd2 f.hd2 start sweep, .lineTo f.hc f.vc, .close]

/-- A segment of the ellipse. -/
def chord (f : Frame α) : Guided (Path α) := do
  let (start, sweep) ← anglePair f "adj1" "adj2"
  let p := pointSeen f.hc f.vc f.wd2 f.hd2 start
  return .drawn [.moveTo p.x p.y, .arcTo f.wd2 f.hd2 start sweep, .close]

/-- An arc of the ellipse, left open. -/
def arc (f : Frame α) : Guided (Path α) := do
  let (start, sweep) ← anglePair f "adj1" "adj2"
  let p := pointSeen f.hc f.vc f.wd2 f.hd2 start
  return .drawn [.moveTo p.x p.y, .arcTo f.wd2 f.hd2 start sweep]

/-- A sector of a ring. -/
def blockArc (f : Frame α) : Guided (Path α) := do
  let (start, sweep) ← anglePair f "adj1" "adj2"
  let dr ← f.shortShare "adj3" 50000
  let iwd2 := f.wd2 - dr
  let ihd2 := f.hd2 - dr
  let stop := start + sweep
  let p := pointSeen f.hc f.vc f.wd2 f.hd2 start
  let q := pointSeen f.hc f.vc iwd2 ihd2 stop
  return .drawn
    [.moveTo p.x p.y, .arcTo f.wd2 f.hd2 start sweep, .lineTo q.x q.y,
      .arcTo iwd2 ihd2 stop (-sweep), .close]

/-- A ring: the inner outline runs against the outer one. -/
def donut (f : Frame α) : Guided (Path α) := do
  let dr ← f.shortShare "adj" 50000
  return .drawn
    [.moveTo 0 f.vc, .arcTo f.wd2 f.hd2 180 360, .close,
      .moveTo dr f.vc, .arcTo (f.wd2 - dr) (f.hd2 - dr) 180 (-360), .close]

/-- A ring with a bar across along the diagonal of the box. The half angle of the inner segments
comes from the radius of the inner ellipse along that diagonal. -/
def noSmoking (f : Frame α) : Guided (Path α) := do
  let dr ← f.shortShare "adj" 50000
  let iwd2 := f.wd2 - dr
  let ihd2 := f.hd2 - dr
  let diagonal := direction f.w f.h
  let (sa, ca) := sinCos diagonal
  let m := Scalar.hypot (ihd2 * ca) (iwd2 * sa)
  let n := quotient (iwd2 * ihd2) m
  let half := direction n (dr / 2)
  let sweep := -180 + 2 * half
  let start1 := diagonal - half
  let start2 := start1 - 180
  let p := pointSeen f.hc f.vc iwd2 ihd2 start1
  let q := pointSeen f.hc f.vc iwd2 ihd2 start2
  return .drawn
    [.moveTo 0 f.vc, .arcTo f.wd2 f.hd2 180 360, .close,
      .moveTo p.x p.y, .arcTo iwd2 ihd2 start1 sweep, .close,
      .moveTo q.x q.y, .arcTo iwd2 ihd2 start2 sweep, .close]

/-- A crescent, open to the right. -/
def moon (f : Frame α) : Guided (Path α) := do
  let a := pin 0 (← f.adj "adj") 87500
  let inner := f.w - f.ofWidth a
  return .drawn
    [.moveTo f.w f.h, .arcTo f.w f.hd2 90 180, .arcTo inner f.hd2 270 (-180), .close]

end ShapeOutline.Preset.Round
