import ShapeOutline.Preset.Frame

/-!
# Polygons

Plain polygons: rectangles, triangles, quadrangles, and the regular polygons, some of which are
stretched by guides so that they fill their box.
-/

namespace ShapeOutline.Preset.Polygon

open Scalar (pin)

variable {α : Type} [Scalar α]

/-- The box itself. -/
def rect (f : Frame α) : Path α := .polygon [(0, 0), (f.w, 0), (f.w, f.h), (0, f.h)]

/-- A triangle whose tip a guide moves along the top. -/
def triangle (f : Frame α) : Guided (Path α) := do
  let a := pin 0 (← f.adj "adj") 100000
  let x2 := f.ofWidth a
  return .polygon [(0, f.h), (x2, 0), (f.w, f.h)]

/-- A right triangle. -/
def rightTriangle (f : Frame α) : Path α := .polygon [(0, f.h), (0, 0), (f.w, f.h)]

/-- The diamond that touches the sides in their middle. -/
def diamond (f : Frame α) : Path α := .polygon [(0, f.vc), (f.hc, 0), (f.w, f.vc), (f.hc, f.h)]

/-- A parallelogram, slanted by a guide. -/
def parallelogram (f : Frame α) : Guided (Path α) := do
  let x2 ← f.shortShare "adj" (f.maxAdj f.w)
  return .polygon [(0, f.h), (x2, 0), (f.w, 0), (f.w - x2, f.h)]

/-- A trapezoid with equal legs. -/
def trapezoid (f : Frame α) : Guided (Path α) := do
  let x2 ← f.shortShare "adj" (f.maxAdj f.wd2)
  return .polygon [(0, f.h), (x2, 0), (f.w - x2, 0), (f.w, f.h)]

/-- A trapezoid with a guide for each leg. -/
def nonIsoscelesTrapezoid (f : Frame α) : Guided (Path α) := do
  let limit := f.maxAdj f.wd2
  let x2 ← f.shortShare "adj1" limit
  let x3 := f.w - (← f.shortShare "adj2" limit)
  return .polygon [(0, f.h), (x2, 0), (x3, 0), (f.w, f.h)]

/-- A regular pentagon. -/
def pentagon (f : Frame α) : Guided (Path α) := do
  let hf ← f.adj "hf"
  let vf ← f.adj "vf"
  let swd2 := f.wd2 * hf / 100000
  let shd2 := f.hd2 * vf / 100000
  let svc := f.vc * vf / 100000
  let (s18, c18) := sinCos (18 : α)
  let (s306, c306) := sinCos (306 : α)
  let dx1 := swd2 * c18
  let dx2 := swd2 * c306
  let y1 := svc - shd2 * s18
  let y2 := svc - shd2 * s306
  let hc := f.hc
  return .polygon [(hc - dx1, y1), (hc, 0), (hc + dx1, y1), (hc + dx2, y2), (hc - dx2, y2)]

/-- A hexagon with points to the left and to the right. -/
def hexagon (f : Frame α) : Guided (Path α) := do
  let x1 ← f.shortShare "adj" (f.maxAdj f.wd2)
  let shd2 := f.hd2 * (← f.adj "vf") / 100000
  let x2 := f.w - x1
  let dy1 := shd2 * (sinCos (60 : α)).1
  let y1 := f.vc - dy1
  let y2 := f.vc + dy1
  return .polygon [(0, f.vc), (x1, y1), (x2, y1), (f.w, f.vc), (x2, y2), (x1, y2)]

/-- A regular heptagon. -/
def heptagon (f : Frame α) : Guided (Path α) := do
  let hf ← f.adj "hf"
  let vf ← f.adj "vf"
  let swd2 := f.wd2 * hf / 100000
  let shd2 := f.hd2 * vf / 100000
  let svc := f.vc * vf / 100000
  let dx1 := swd2 * 97493 / 100000
  let dx2 := swd2 * 78183 / 100000
  let dx3 := swd2 * 43388 / 100000
  let y1 := svc - shd2 * 62349 / 100000
  let y2 := svc + shd2 * 22252 / 100000
  let y3 := svc + shd2 * 90097 / 100000
  let hc := f.hc
  return .polygon [(hc - dx1, y2), (hc - dx2, y1), (hc, 0), (hc + dx2, y1), (hc + dx1, y2),
    (hc + dx3, y3), (hc - dx3, y3)]

/-- The box with its corners cut. -/
def octagon (f : Frame α) : Guided (Path α) := do
  let x1 ← f.shortShare "adj" 50000
  let x2 := f.w - x1
  let y2 := f.h - x1
  return .polygon [(0, x1), (x1, 0), (x2, 0), (f.w, x1), (f.w, y2), (x2, f.h), (x1, f.h), (0, y2)]

/-- A regular decagon. -/
def decagon (f : Frame α) : Guided (Path α) := do
  let shd2 := f.hd2 * (← f.adj "vf") / 100000
  let (s36, c36) := sinCos (36 : α)
  let (s72, c72) := sinCos (72 : α)
  let hc := f.hc
  let vc := f.vc
  let dx1 := f.wd2 * c36
  let dx2 := f.wd2 * c72
  let dy1 := shd2 * s72
  let dy2 := shd2 * s36
  return .polygon [(0, vc), (hc - dx1, vc - dy2), (hc - dx2, vc - dy1), (hc + dx2, vc - dy1),
    (hc + dx1, vc - dy2), (f.w, vc), (hc + dx1, vc + dy2), (hc + dx2, vc + dy1),
    (hc - dx2, vc + dy1), (hc - dx1, vc + dy2)]

/-- A dodecagon, drawn in a space of its own. -/
def dodecagon (f : Frame α) : Path α :=
  .drawnIn f.w f.h 21600 21600 <| Instruction.polygon
    [(0, 7906), (2894, 2894), (7906, 0), (13694, 0), (18706, 2894), (21600, 7906),
      (21600, 13694), (18706, 18706), (13694, 21600), (7906, 21600), (2894, 18706), (0, 13694)]

/-- A cross that fills the box. -/
def cross (f : Frame α) : Guided (Path α) := do
  let x1 ← f.shortShare "adj" 50000
  let x2 := f.w - x1
  let y2 := f.h - x1
  return .polygon [(0, x1), (x1, x1), (x1, 0), (x2, 0), (x2, x1), (f.w, x1), (f.w, y2), (x2, y2),
    (x2, f.h), (x1, f.h), (x1, y2), (0, y2)]

/-- A rectangle with a point to the right. -/
def homePlate (f : Frame α) : Guided (Path α) := do
  let x1 := f.w - (← f.shortShare "adj" (f.maxAdj f.w))
  return .polygon [(0, 0), (x1, 0), (f.w, f.vc), (x1, f.h), (0, f.h)]

/-- A rectangle with a point to the right and a notch of the same form on the left. -/
def chevron (f : Frame α) : Guided (Path α) := do
  let x1 ← f.shortShare "adj" (f.maxAdj f.w)
  let x2 := f.w - x1
  return .polygon [(0, 0), (x2, 0), (f.w, f.vc), (x2, f.h), (0, f.h), (x1, f.vc)]

end ShapeOutline.Preset.Polygon
