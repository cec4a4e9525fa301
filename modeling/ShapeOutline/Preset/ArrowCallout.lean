import ShapeOutline.Preset.Frame

/-!
# Arrow callouts

Boxes with block arrows at their sides.
-/

namespace ShapeOutline.Preset.ArrowCallout

open Scalar (pin quotient)

variable {α : Type} [Scalar α]

/-- The measures of a box with heads along the width: the half widths of shaft and head, the length
of a head, and the length of the box. -/
structure Parts (α : Type) where
  halfShaft : α
  halfHead : α
  headLength : α
  boxLength : α

/-- The measures from four guides, for a number of heads that share the width with the box. -/
def parts (f : Frame α) (heads : α) : Guided (Parts α) := do
  let a2 := pin 0 (← f.adj "adj2") (f.maxAdj f.hd2)
  let a1 := pin 0 (← f.adj "adj1") (a2 * 2)
  let a3 := pin 0 (← f.adj "adj3") (f.maxAdj (f.w / heads))
  let a4 := pin 0 (← f.adj "adj4") (100000 - quotient (a3 * f.ss * heads) f.w)
  return ⟨f.ss * a1 / 200000, f.ofShort a2, f.ofShort a3, f.ofWidth a4⟩

/-- A box with an arrow to the right. -/
def right (f : Frame α) : Guided (Path α) := do
  let ⟨dy2, dy1, dx3, x2⟩ ← parts f 1
  let vc := f.vc
  let x3 := f.w - dx3
  let y1 := vc - dy1
  let y2 := vc - dy2
  let y3 := vc + dy2
  let y4 := vc + dy1
  return .polygon [(0, 0), (x2, 0), (x2, y2), (x3, y2), (x3, y1), (f.w, vc), (x3, y4), (x3, y3),
    (x2, y3), (x2, f.h), (0, f.h)]

/-- A box with an arrow to the left. -/
def left (f : Frame α) : Guided (Path α) := do
  let ⟨dy2, dy1, x1, dx2⟩ ← parts f 1
  let vc := f.vc
  let x2 := f.w - dx2
  let y1 := vc - dy1
  let y2 := vc - dy2
  let y3 := vc + dy2
  let y4 := vc + dy1
  return .polygon [(0, vc), (x1, y1), (x1, y2), (x2, y2), (x2, 0), (f.w, 0), (f.w, f.h), (x2, f.h),
    (x2, y3), (x1, y3), (x1, y4)]

/-- A box with an arrow upwards. -/
def up (f : Frame α) : Guided (Path α) := (left f.transposed).map Path.transposed

/-- A box with an arrow downwards. -/
def down (f : Frame α) : Guided (Path α) := (right f.transposed).map Path.transposed

/-- A box with arrows to the left and to the right. -/
def leftRight (f : Frame α) : Guided (Path α) := do
  let ⟨dy2, dy1, x1, boxLength⟩ ← parts f 2
  let hc := f.hc
  let vc := f.vc
  let x4 := f.w - x1
  let x2 := hc - boxLength / 2
  let x3 := hc + boxLength / 2
  let y1 := vc - dy1
  let y2 := vc - dy2
  let y3 := vc + dy2
  let y4 := vc + dy1
  return .polygon [(0, vc), (x1, y1), (x1, y2), (x2, y2), (x2, 0), (x3, 0), (x3, y2), (x4, y2),
    (x4, y1), (f.w, vc), (x4, y4), (x4, y3), (x3, y3), (x3, f.h), (x2, f.h), (x2, y3), (x1, y3),
    (x1, y4)]

/-- A box with arrows upwards and downwards. -/
def upDown (f : Frame α) : Guided (Path α) := (leftRight f.transposed).map Path.transposed

/-- A box with arrows at all sides. -/
def quad (f : Frame α) : Guided (Path α) := do
  let a2 := pin 0 (← f.adj "adj2") 50000
  let a1 := pin 0 (← f.adj "adj1") (a2 * 2)
  let a3 := pin 0 (← f.adj "adj3") (50000 - a2)
  let a4 := pin a1 (← f.adj "adj4") (100000 - a3 * 2)
  let hc := f.hc
  let vc := f.vc
  let dx2 := f.ofShort a2
  let dx3 := f.ss * a1 / 200000
  let ah := f.ofShort a3
  let dx1 := f.w * a4 / 200000
  let dy1 := f.h * a4 / 200000
  let x8 := f.w - ah
  let x2 := hc - dx1
  let x7 := hc + dx1
  let x3 := hc - dx2
  let x6 := hc + dx2
  let x4 := hc - dx3
  let x5 := hc + dx3
  let y8 := f.h - ah
  let y2 := vc - dy1
  let y7 := vc + dy1
  let y3 := vc - dx2
  let y6 := vc + dx2
  let y4 := vc - dx3
  let y5 := vc + dx3
  return .polygon [(0, vc), (ah, y3), (ah, y4), (x2, y4), (x2, y2), (x4, y2), (x4, ah), (x3, ah),
    (hc, 0), (x6, ah), (x5, ah), (x5, y2), (x7, y2), (x7, y4), (x8, y4), (x8, y3), (f.w, vc),
    (x8, y6), (x8, y5), (x7, y5), (x7, y7), (x5, y7), (x5, y8), (x6, y8), (hc, f.h), (x3, y8),
    (x4, y8), (x4, y7), (x2, y7), (x2, y5), (ah, y5), (ah, y6)]

end ShapeOutline.Preset.ArrowCallout
