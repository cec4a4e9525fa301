import ShapeOutline.Preset.Frame

/-!
# Signs of arithmetic

The signs of addition, subtraction, multiplication, division, equality and inequality. They span a
fixed share of the box.
-/

namespace ShapeOutline.Preset.Equation

open Instruction (polygon)
open Scalar (pin quotient direction)

variable {α : Type} [Scalar α]

/-- Half of what the signs span of a side. -/
def halfSpan (length : α) : α := length * 73490 / 200000

/-- A rectangle with two given corners. -/
def bar (x1 y1 x2 y2 : α) : List (Instruction α) := polygon [(x1, y1), (x2, y1), (x2, y2), (x1, y2)]

/-- The sign of addition. -/
def plusSign (f : Frame α) : Guided (Path α) := do
  let a1 := pin 0 (← f.adj "adj1") 73490
  let dx1 := halfSpan f.w
  let dy1 := halfSpan f.h
  let dx2 := f.ss * a1 / 200000
  let x1 := f.hc - dx1
  let x2 := f.hc - dx2
  let x3 := f.hc + dx2
  let x4 := f.hc + dx1
  let y1 := f.vc - dy1
  let y2 := f.vc - dx2
  let y3 := f.vc + dx2
  let y4 := f.vc + dy1
  return .polygon [(x1, y2), (x2, y2), (x2, y1), (x3, y1), (x3, y2), (x4, y2), (x4, y3), (x3, y3),
    (x3, y4), (x2, y4), (x2, y3), (x1, y3)]

/-- The sign of subtraction. -/
def minusSign (f : Frame α) : Guided (Path α) := do
  let a1 := pin 0 (← f.adj "adj1") 100000
  let dy1 := f.h * a1 / 200000
  let dx1 := halfSpan f.w
  return .drawn (bar (f.hc - dx1) (f.vc - dy1) (f.hc + dx1) (f.vc + dy1))

/-- The sign of multiplication: two bars along the diagonals of the box. -/
def timesSign (f : Frame α) : Guided (Path α) := do
  let th ← f.shortShare "adj1" 51965
  let (sa, ca) := sinCos (direction f.w f.h)
  let dl := Scalar.hypot f.w f.h
  let lm := dl - dl * 51965 / 100000
  let xm := ca * lm / 2
  let ym := sa * lm / 2
  let dxam := sa * th / 2
  let dyam := ca * th / 2
  let xa := xm - dxam
  let ya := ym + dyam
  let xb := xm + dxam
  let yb := ym - dyam
  let yc := quotient ((f.hc - xb) * f.h) f.w + yb
  let xd := f.w - xb
  let xe := f.w - xa
  let xfe := quotient ((f.vc - ya) * f.w) f.h
  let xf := xe - xfe
  let xl := xa + xfe
  let yg := f.h - ya
  let yh := f.h - yb
  let yi := f.h - yc
  return .polygon [(xa, ya), (xb, yb), (f.hc, yc), (xd, yb), (xe, ya), (xf, f.vc), (xe, yg),
    (xd, yh), (f.hc, yi), (xb, yh), (xa, yg), (xl, f.vc)]

/-- The sign of division: two dots and a bar. -/
def divisionSign (f : Frame α) : Guided (Path α) := do
  let a1 := pin 1000 (← f.adj "adj1") 36745
  let max3 := Scalar.min ((73490 - a1) / 4) (quotient (36745 * f.w) f.h)
  let a3 := pin 1000 (← f.adj "adj3") max3
  let a2 := pin 0 (← f.adj "adj2") (73490 - 4 * a3 - a1)
  let dy1 := f.h * a1 / 200000
  let yg := f.ofHeight a2
  let radius := f.ofHeight a3
  let dx1 := halfSpan f.w
  let y3 := f.vc - dy1
  let y4 := f.vc + dy1
  let y2 := y3 - (yg + radius)
  let y1 := y2 - radius
  let y5 := f.h - y1
  return .drawn <|
    [.moveTo f.hc y1, .arcTo radius radius 270 360, .close,
      .moveTo f.hc y5, .arcTo radius radius 90 360, .close] ++
      bar (f.hc - dx1) y3 (f.hc + dx1) y4

/-- The thickness of each of two horizontal bars, and half the gap between them. -/
def twoBars (f : Frame α) (limit : α) (gap : String) : Guided (α × α) := do
  let a1 := pin 0 (← f.adj "adj1") limit
  let a2 := pin 0 (← f.adj gap) (100000 - 2 * a1)
  return (f.ofHeight a1, f.h * a2 / 200000)

/-- The sign of equality. -/
def equalSign (f : Frame α) : Guided (Path α) := do
  let (dy1, dy2) ← twoBars f 36745 "adj2"
  let dx1 := halfSpan f.w
  let x1 := f.hc - dx1
  let x2 := f.hc + dx1
  let y2 := f.vc - dy2
  let y3 := f.vc + dy2
  return .drawn (bar x1 (y2 - dy1) x2 y2 ++ bar x1 y3 x2 (y3 + dy1))

/-- The sign of inequality: two bars and a slash of the same thickness. `lean` is how far the slash
leans from the centre to the top. -/
def notEqualSign (f : Frame α) : Guided (Path α) := do
  let (dy1, dy2) ← twoBars f 50000 "adj3"
  let slash := pin 70 (← f.angle "adj2") 110
  let dx1 := halfSpan f.w
  let x1 := f.hc - dx1
  let x8 := f.hc + dx1
  let y2 := f.vc - dy2
  let y3 := f.vc + dy2
  let (s, c) := sinCos (slash - 90)
  let lean := f.hd2 * s / c
  let length := Scalar.hypot lean f.hd2
  let half := quotient (length * dy1) f.hd2 / 2
  return .drawn <|
    bar x1 (y2 - dy1) x8 y2 ++ bar x1 y3 x8 (y3 + dy1) ++
      polygon
        [(f.hc + lean - half, 0), (f.hc + lean + half, 0), (f.hc - lean + half, f.h),
          (f.hc - lean - half, f.h)]

end ShapeOutline.Preset.Equation
