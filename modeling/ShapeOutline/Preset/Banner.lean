import ShapeOutline.Preset.Frame

/-!
# Ribbons, scrolls and waves
-/

namespace ShapeOutline.Preset.Banner

open Scalar (pin)

variable {α : Type} [Scalar α]

/-- A ribbon whose middle hangs lower than its tails, which are folded behind it. -/
def ribbonDown (f : Frame α) : Guided (Path α) := do
  let a1 := pin 0 (← f.adj "adj1") 33333
  let a2 := pin 25000 (← f.adj "adj2") 75000
  let wd8 := f.w / 8
  let wd32 := f.w / 32
  let dx2 := f.w * a2 / 200000
  let x2 := f.hc - dx2
  let x9 := f.hc + dx2
  let x3 := x2 + wd32
  let x8 := x9 - wd32
  let x5 := x2 + wd8
  let x6 := x9 - wd8
  let x4 := x5 - wd32
  let x7 := x6 + wd32
  let x10 := f.w - wd8
  let y1 := f.h * a1 / 200000
  let y2 := f.ofHeight a1
  let y4 := f.h - y2
  let y3 := y4 / 2
  let hr := f.h * a1 / 400000
  let y5 := f.h - hr
  return .drawn
    [.moveTo 0 0, .lineTo x4 0, .arcTo wd32 hr 270 180, .lineTo x3 y1, .arcTo wd32 hr 270 (-180),
      .lineTo x8 y2, .arcTo wd32 hr 90 (-180), .lineTo x7 y1, .arcTo wd32 hr 90 180,
      .lineTo f.w 0, .lineTo x10 y3, .lineTo f.w y4, .lineTo x9 y4, .lineTo x9 y5,
      .arcTo wd32 hr 0 90, .lineTo x3 f.h, .arcTo wd32 hr 90 90, .lineTo x2 y4, .lineTo 0 y4,
      .lineTo wd8 y3, .close]

/-- The same ribbon upside down. -/
def ribbonUp (f : Frame α) : Guided (Path α) :=
  (ribbonDown f).map (Path.flipped f.w f.h false true)

/-- A scroll rolled up at the top right and the bottom left. -/
def verticalScroll (f : Frame α) : Guided (Path α) := do
  let ch ← f.shortShare "adj" 25000
  let ch2 := ch / 2
  let ch4 := ch / 4
  let x4 := ch * 2
  let x6 := f.w - ch
  let x7 := f.w - ch2
  let y3 := f.h - ch
  let y4 := f.h - ch2
  return .drawn
    [.moveTo ch2 f.h, .arcTo ch2 ch2 90 (-90), .lineTo ch2 y4, .arcTo ch4 ch4 90 (-180),
      .lineTo ch y3, .lineTo ch ch2, .arcTo ch2 ch2 180 90, .lineTo x7 0, .arcTo ch2 ch2 270 180,
      .lineTo x6 ch, .lineTo x6 y4, .arcTo ch2 ch2 0 90, .close,
      .moveTo x4 ch2, .arcTo ch2 ch2 0 90, .arcTo ch4 ch4 90 180, .close]

/-- A scroll rolled up at the left and the right. -/
def horizontalScroll (f : Frame α) : Guided (Path α) :=
  (verticalScroll f.transposed).map Path.transposed

/-- The measures of a wave: its amplitude, how far its control points lie from its edges, and where
the top edge and the bottom edge begin and end. -/
structure Wave (α : Type) where
  amplitude : α
  reach : α
  topLeft : α
  topRight : α
  bottomLeft : α
  bottomRight : α

/-- The measures from two guides: the amplitude, limited, and the shift of the edges against each
other. -/
def wave (f : Frame α) (limit : α) : Guided (Wave α) := do
  let a1 := pin 0 (← f.adj "adj1") limit
  let a2 := pin (-10000) (← f.adj "adj2") 10000
  let y1 := f.ofHeight a1
  let shift := f.w * a2 / 50000
  let dx2 := if 0 < shift then 0 else shift
  let dx5 := if 0 < shift then shift else 0
  return ⟨y1, y1 * 10 / 3, -dx2, f.w - dx5, dx5, f.w + dx2⟩

/-- A strip with one wave. -/
def singleWave (f : Frame α) : Guided (Path α) := do
  let ⟨y1, dy2, x2, x5, x6, x10⟩ ← wave f 20000
  let y4 := f.h - y1
  let y2 := y1 - dy2
  let y3 := y1 + dy2
  let y5 := y4 - dy2
  let y6 := y4 + dy2
  let dx3 := (x5 - x2) / 3
  let x3 := x2 + dx3
  let x4 := (x3 + x5) / 2
  let x7 := x6 + dx3
  let x8 := (x7 + x10) / 2
  return .drawn
    [.moveTo x2 y1, .cubicTo x3 y2 x4 y3 x5 y1, .lineTo x10 y4, .cubicTo x8 y6 x7 y5 x6 y4, .close]

/-- A strip with two waves. -/
def doubleWave (f : Frame α) : Guided (Path α) := do
  let ⟨y1, dy2, x2, x8, x9, x15⟩ ← wave f 12500
  let y4 := f.h - y1
  let y2 := y1 - dy2
  let y3 := y1 + dy2
  let y5 := y4 - dy2
  let y6 := y4 + dy2
  let span := x8 - x2
  let dx3 := span / 6
  let dx4 := span / 3
  let x3 := x2 + dx3
  let x4 := x2 + dx4
  let x5 := (x2 + x8) / 2
  let x6 := x5 + dx3
  let x7 := (x6 + x8) / 2
  let x10 := x9 + dx3
  let x11 := x9 + dx4
  let x12 := (x9 + x15) / 2
  let x13 := x12 + dx3
  let x14 := (x13 + x15) / 2
  return .drawn
    [.moveTo x2 y1, .cubicTo x3 y2 x4 y3 x5 y1, .cubicTo x6 y2 x7 y3 x8 y1, .lineTo x15 y4,
      .cubicTo x14 y6 x13 y5 x12 y4, .cubicTo x11 y6 x10 y5 x9 y4, .close]

end ShapeOutline.Preset.Banner
