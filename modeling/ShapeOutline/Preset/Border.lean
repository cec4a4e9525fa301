import ShapeOutline.Preset.Frame

/-!
# Borders and corners

Shapes that follow the sides of the box: frames, corners, stripes, a bevelled plate and a page with
a folded corner.
-/

namespace ShapeOutline.Preset.Border

open Instruction (polygon segment)
open Scalar (pin quotient)

variable {α : Type} [Scalar α]

/-- A frame: the inner outline runs against the outer one. -/
def frame (f : Frame α) : Guided (Path α) := do
  let x1 ← f.shortShare "adj1" 50000
  let x4 := f.w - x1
  let y4 := f.h - x1
  return .drawn <|
    polygon [(0, 0), (f.w, 0), (f.w, f.h), (0, f.h)] ++
      polygon [(x1, x1), (x1, y4), (x4, y4), (x4, x1)]

/-- The upper left half of a frame, with slanted ends. -/
def halfFrame (f : Frame α) : Guided (Path α) := do
  let x1 ← f.shortShare "adj2" (f.maxAdj f.w)
  let g1 := quotient (f.h * x1) f.w
  let y1 ← f.shortShare "adj1" (f.maxAdj (f.h - g1))
  let x2 := f.w - quotient (y1 * f.w) f.h
  let y2 := f.h - quotient (x1 * f.h) f.w
  return .polygon [(0, 0), (f.w, 0), (x2, y1), (x1, y1), (x1, y2), (0, f.h)]

/-- The lower left corner of a frame. -/
def corner (f : Frame α) : Guided (Path α) := do
  let dy ← f.shortShare "adj1" (f.maxAdj f.h)
  let x1 ← f.shortShare "adj2" (f.maxAdj f.w)
  let y1 := f.h - dy
  return .polygon [(0, 0), (x1, 0), (x1, y1), (f.w, y1), (f.w, f.h), (0, f.h)]

/-- A stripe across the upper left corner. -/
def diagonalStripe (f : Frame α) : Guided (Path α) := do
  let a := pin 0 (← f.adj "adj") 100000
  return .polygon [(0, f.ofHeight a), (f.ofWidth a, 0), (f.w, 0), (0, f.h)]

/-- A plate with bevelled edges: two rectangles and the lines between their corners. -/
def bevel (f : Frame α) : Guided (Path α) := do
  let x1 ← f.shortShare "adj" 50000
  let x2 := f.w - x1
  let y2 := f.h - x1
  return .drawn <|
    polygon [(0, 0), (f.w, 0), (f.w, f.h), (0, f.h)] ++
      polygon [(x1, x1), (x2, x1), (x2, y2), (x1, y2)] ++
      segment 0 0 x1 x1 ++ segment 0 f.h x1 y2 ++ segment f.w 0 x2 x1 ++ segment f.w f.h x2 y2

/-- A page whose lower right corner is folded over. -/
def foldedCorner (f : Frame α) : Guided (Path α) := do
  let dy2 ← f.shortShare "adj" 50000
  let dy1 := dy2 / 5
  let x1 := f.w - dy2
  let x2 := x1 + dy1
  let y2 := f.h - dy2
  let y1 := y2 + dy1
  return .drawn <|
    polygon [(0, 0), (f.w, 0), (f.w, y2), (x1, f.h), (0, f.h)] ++
      polygon [(x1, f.h), (x2, y1), (f.w, y2)]

end ShapeOutline.Preset.Border
