import ShapeOutline.Preset.Frame

/-!
# Small pictures

Shapes that depict something: a can, a cube, a face, a heart, a bolt and a sun.
-/

namespace ShapeOutline.Preset.Pictorial

open Instruction (polygon ellipse)
open Scalar (pin)

variable {α : Type} [Scalar α]

/-- A can: its body, and its lid as an ellipse of its own. -/
def can (f : Frame α) : Guided (Path α) := do
  let a := pin 0 (← f.adj "adj") (f.maxAdj f.h / 2)
  let y1 := f.ofShort a / 2
  let y3 := f.h - y1
  return .drawn
    [.moveTo 0 y1, .arcTo f.wd2 y1 180 (-180), .lineTo f.w y3, .arcTo f.wd2 y1 0 180, .close,
      .moveTo 0 y1, .arcTo f.wd2 y1 180 180, .arcTo f.wd2 y1 0 180, .close]

/-- A cube: its front, top and right side. -/
def cube (f : Frame α) : Guided (Path α) := do
  let y1 ← f.shortShare "adj" 100000
  let y4 := f.h - y1
  let x4 := f.w - y1
  return .drawn <|
    polygon [(0, y1), (x4, y1), (x4, f.h), (0, f.h)] ++
      polygon [(0, y1), (y1, 0), (f.w, 0), (x4, y1)] ++
      polygon [(x4, f.h), (x4, y1), (f.w, 0), (f.w, y4)]

/-- A face with two eyes, and a mouth that a guide bends. -/
def smileyFace (f : Frame α) : Guided (Path α) := do
  let a := pin (-4653) (← f.adj "adj") 4653
  let x1 := f.w * 4969 / 21699
  let x2 := f.w * 6215 / 21600
  let x3 := f.w * 13135 / 21600
  let x4 := f.w * 16640 / 21600
  let y1 := f.h * 7570 / 21600
  let y3 := f.h * 16515 / 21600
  let dy2 := f.ofHeight a
  let y2 := y3 - dy2
  let y4 := y3 + dy2
  let y5 := y4 + f.h * a / 50000
  let wr := f.w * 1125 / 21600
  let hr := f.h * 1125 / 21600
  return .drawn <|
    ellipse f.hc f.vc f.wd2 f.hd2 ++ ellipse x2 y1 wr hr ++ ellipse x3 y1 wr hr ++
      [.moveTo x1 y2, .quadTo f.hc y5 x4 y2]

/-- A heart. -/
def heart (f : Frame α) : Path α :=
  let dx1 := f.w * 49 / 48
  let dx2 := f.w * 10 / 48
  let hd4 := f.h / 4
  let y1 := -f.h / 3
  .drawn
    [.moveTo f.hc hd4, .cubicTo (f.hc + dx2) y1 (f.hc + dx1) hd4 f.hc f.h,
      .cubicTo (f.hc - dx1) hd4 (f.hc - dx2) y1 f.hc hd4, .close]

/-- A bolt of lightning, drawn in a space of its own. -/
def lightningBolt (f : Frame α) : Path α :=
  .drawnIn f.w f.h 21600 21600 <| polygon
    [(8472, 0), (12860, 6080), (11050, 6797), (16577, 12007), (14767, 12877), (21600, 21600),
      (10012, 14915), (12222, 13987), (5022, 9705), (7602, 8382), (0, 3890)]

/-- A disc with eight rays. -/
def sun (f : Frame α) : Guided (Path α) := do
  let a := pin 12500 (← f.adj "adj") 46875
  let g0 := 50000 - a
  let g1 := g0 * 30274 / 32768
  let g2 := g0 * 12540 / 32768
  let g5 := 50000 - g1
  let g6 := 50000 - g2
  let g10 := g5 * 3 / 4
  let g11 := g6 * 3 / 4
  let g12 := g10 + 3662
  let g13 := g11 + 3662
  let g14 := g11 + 12500
  let g15 := 100000 - g10
  let g16 := 100000 - g12
  let g17 := 100000 - g13
  let g18 := 100000 - g14
  let x := f.ofWidth
  let y := f.ofHeight
  let ox1 := f.w * 18436 / 21600
  let oy1 := f.h * 3163 / 21600
  let ox2 := f.w * 3163 / 21600
  let oy2 := f.h * 18436 / 21600
  return .drawn <|
    polygon [(f.w, f.vc), (x g15, y g18), (x g15, y g14)] ++
      polygon [(ox1, oy1), (x g16, y g17), (x g13, y g12)] ++
      polygon [(f.hc, 0), (x g18, y g10), (x g14, y g10)] ++
      polygon [(ox2, oy1), (x g17, y g12), (x g12, y g17)] ++
      polygon [(0, f.vc), (x g10, y g14), (x g10, y g18)] ++
      polygon [(ox2, oy2), (x g12, y g13), (x g17, y g16)] ++
      polygon [(f.hc, f.h), (x g14, y g15), (x g18, y g15)] ++
      polygon [(ox1, oy2), (x g13, y g16), (x g16, y g13)] ++
      ellipse f.hc f.vc (x g0) (y g0)

end ShapeOutline.Preset.Pictorial
