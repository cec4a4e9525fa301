import ShapeOutline.Preset.Frame

/-!
# Stars and seals

A star is inscribed in an ellipse: its outer points lie on it at equal angles, its inner ones
between them on a smaller ellipse. Seals are fixed lists of points.
-/

namespace ShapeOutline.Preset

open Scalar (pin)

variable {α : Type} [Scalar α]

/-- A star: how many points it has, the angle of the first, its ellipse, and the inner radius as a
share of the outer one. -/
structure Star (α : Type) where
  points : Nat
  start : α
  cx : α
  cy : α
  rx : α
  ry : α
  inner : α

namespace Star

/-- The star in the middle of the frame, its inner radius given by a guide. -/
def centered (f : Frame α) (points : Nat) (start : α) : Guided (Star α) := do
  let inner := pin 0 (← f.adj "adj") 50000 / 50000
  return ⟨points, start, f.hc, f.vc, f.wd2, f.hd2, inner⟩

/-- The star widened by a guide. -/
def widened (f : Frame α) (s : Star α) : Guided (Star α) := do
  let hf := (← f.adj "hf") / 100000
  return { s with rx := s.rx * hf }

/-- The star heightened by a guide; its centre moves down with it. -/
def heightened (f : Frame α) (s : Star α) : Guided (Star α) := do
  let vf := (← f.adj "vf") / 100000
  return { s with ry := s.ry * vf, cy := s.cy * vf }

/-- The point at an angle, on the ellipse shrunk by `k`. -/
def point (s : Star α) (deg k : α) : α × α :=
  let (sin, cos) := sinCos deg
  (s.cx + s.rx * k * cos, s.cy + s.ry * k * sin)

/-- The angle from one outer point to the next. -/
def angleStep (s : Star α) : α := 360 / Scalar.ofInt s.points

/-- The outer point with a number and the inner point behind it. -/
def corner (s : Star α) (i : Nat) : List (α × α) :=
  let outer := s.start + s.angleStep * Scalar.ofInt i
  [s.point outer 1, s.point (outer + s.angleStep / 2) s.inner]

/-- The outline of the star. -/
def outline (s : Star α) : Path α := .polygon ((List.range s.points).flatMap s.corner)

/-- A star with `points` points. -/
def even (points : Nat) (f : Frame α) : Guided (Path α) := do
  return (← centered f points 180).outline

/-- A star with five points. -/
def star5 (f : Frame α) : Guided (Path α) := do
  return (← heightened f (← widened f (← centered f 5 198))).outline

/-- A star with six points. -/
def star6 (f : Frame α) : Guided (Path α) := do
  return (← widened f (← centered f 6 210)).outline

/-- A star with seven points. -/
def star7 (f : Frame α) : Guided (Path α) := do
  let s ← centered f 7 (270 - 2 * 360 / 7)
  return (← heightened f (← widened f s)).outline

/-- A star with ten points. -/
def star10 (f : Frame α) : Guided (Path α) := do
  return (← widened f (← centered f 10 198)).outline

/-- A polygon in the space of seals. -/
def sealOutline (f : Frame α) (points : List (α × α)) : Path α :=
  .drawnIn f.w f.h 21600 21600 (Instruction.polygon points)

/-- A seal with few points. -/
def irregularSeal1 (f : Frame α) : Path α :=
  sealOutline f
    [(10800, 5800), (14522, 0), (14155, 5325), (18380, 4457), (16702, 7315), (21097, 8137),
      (17607, 10475), (21600, 13290), (16837, 12942), (18145, 18095), (14020, 14457),
      (13247, 19737), (10532, 14935), (8485, 21600), (7715, 15627), (4762, 17617), (5667, 13937),
      (135, 14587), (3722, 11775), (0, 8615), (4627, 7617), (370, 2295), (7312, 6320),
      (8352, 2295)]

/-- A seal with more points. -/
def irregularSeal2 (f : Frame α) : Path α :=
  sealOutline f
    [(11462, 4342), (14790, 0), (14525, 5777), (18007, 3172), (16380, 6532), (21600, 6645),
      (16985, 9402), (18270, 11290), (16380, 12310), (18877, 15632), (14640, 14350),
      (14942, 17370), (12180, 15935), (11612, 18842), (9872, 17370), (8700, 19712),
      (7527, 18125), (4917, 21600), (4805, 18240), (1285, 17825), (3330, 15370), (0, 12877),
      (3935, 11592), (1172, 8270), (5372, 7817), (4502, 3625), (8550, 6382), (9722, 1887)]

end Star

end ShapeOutline.Preset
