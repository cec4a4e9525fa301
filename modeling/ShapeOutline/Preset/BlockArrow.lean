import ShapeOutline.Preset.Frame

/-!
# Block arrows

Filled arrows with a shaft and one or more heads. The vertical ones are the horizontal ones in the
frame with exchanged axes, with their axes exchanged again.
-/

namespace ShapeOutline.Preset.BlockArrow

open Instruction (polygon)
open Scalar (pin quotient)

variable {α : Type} [Scalar α]

/-- The half width of the shaft, a share of the height, and the length of the head, a share of the
short side that is at most `limit`. -/
def shaftAndHead (f : Frame α) (limit : α) : Guided (α × α) := do
  let a1 := pin 0 (← f.adj "adj1") 100000
  let head ← f.shortShare "adj2" (f.maxAdj limit)
  return (f.h * a1 / 200000, head)

/-- An arrow to the right. -/
def right (f : Frame α) : Guided (Path α) := do
  let (dy1, dx1) ← shaftAndHead f f.w
  let x1 := f.w - dx1
  let y1 := f.vc - dy1
  let y2 := f.vc + dy1
  return .polygon [(0, y1), (x1, y1), (x1, 0), (f.w, f.vc), (x1, f.h), (x1, y2), (0, y2)]

/-- An arrow to the left. -/
def left (f : Frame α) : Guided (Path α) := do
  let (dy1, x2) ← shaftAndHead f f.w
  let y1 := f.vc - dy1
  let y2 := f.vc + dy1
  return .polygon [(0, f.vc), (x2, 0), (x2, y1), (f.w, y1), (f.w, y2), (x2, y2), (x2, f.h)]

/-- An arrow upwards. -/
def up (f : Frame α) : Guided (Path α) := (left f.transposed).map Path.transposed

/-- An arrow downwards. -/
def down (f : Frame α) : Guided (Path α) := (right f.transposed).map Path.transposed

/-- An arrow to the right whose shaft begins with two stripes. -/
def stripedRight (f : Frame α) : Guided (Path α) := do
  let (dy1, dx5) ← shaftAndHead f (f.w * 0.84375)
  let x5 := f.w - dx5
  let y1 := f.vc - dy1
  let y2 := f.vc + dy1
  let ssd32 := f.ss / 32
  let ssd16 := f.ss / 16
  let ssd8 := f.ss / 8
  let x4 := f.ss * 5 / 32
  return .drawn <|
    polygon [(0, y1), (ssd32, y1), (ssd32, y2), (0, y2)] ++
      polygon [(ssd16, y1), (ssd8, y1), (ssd8, y2), (ssd16, y2)] ++
      polygon [(x4, y1), (x5, y1), (x5, 0), (f.w, f.vc), (x5, f.h), (x5, y2), (x4, y2)]

/-- An arrow to the right with a notch in the end of its shaft. -/
def notchedRight (f : Frame α) : Guided (Path α) := do
  let (dy1, dx2) ← shaftAndHead f f.w
  let x2 := f.w - dx2
  let y1 := f.vc - dy1
  let y2 := f.vc + dy1
  let x1 := quotient (dy1 * dx2) f.hd2
  return .polygon [(0, y1), (x2, y1), (x2, 0), (f.w, f.vc), (x2, f.h), (x2, y2), (0, y2),
    (x1, f.vc)]

/-- An arrow with heads to the left and to the right. -/
def leftRight (f : Frame α) : Guided (Path α) := do
  let (dy, x2) ← shaftAndHead f f.wd2
  let x3 := f.w - x2
  let y1 := f.vc - dy
  let y2 := f.vc + dy
  return .polygon [(0, f.vc), (x2, 0), (x2, y1), (x3, y1), (x3, 0), (f.w, f.vc), (x3, f.h),
    (x3, y2), (x2, y2), (x2, f.h)]

/-- An arrow with heads upwards and downwards. -/
def upDown (f : Frame α) : Guided (Path α) := (leftRight f.transposed).map Path.transposed

/-- The heads of an arrow with several of them: their length, their half width, and the half width
of the shafts. -/
structure Heads (α : Type) where
  length : α
  halfWidth : α
  halfShaft : α

/-- Heads from three guides: the second gives the half width of a head, the first the width of a
shaft, which is at most that of a head, and the third the length of a head, limited according to
that width. -/
def heads (f : Frame α) (limit : α → α) : Guided (Heads α) := do
  let a2 := pin 0 (← f.adj "adj2") 50000
  let width := a2 * 2
  let a1 := pin 0 (← f.adj "adj1") width
  let length ← f.shortShare "adj3" (limit width)
  return ⟨length, f.ofShort a2, f.ss * a1 / 200000⟩

/-- An arrow with four heads. -/
def quad (f : Frame α) : Guided (Path α) := do
  let ⟨x1, dx2, dx3⟩ ← heads f fun width => (100000 - width) / 2
  let hc := f.hc
  let vc := f.vc
  let x2 := hc - dx2
  let x5 := hc + dx2
  let x3 := hc - dx3
  let x4 := hc + dx3
  let x6 := f.w - x1
  let y2 := vc - dx2
  let y5 := vc + dx2
  let y3 := vc - dx3
  let y4 := vc + dx3
  let y6 := f.h - x1
  return .polygon [(0, vc), (x1, y2), (x1, y3), (x3, y3), (x3, x1), (x2, x1), (hc, 0), (x5, x1),
    (x4, x1), (x4, y3), (x6, y3), (x6, y2), (f.w, vc), (x6, y5), (x6, y4), (x4, y4), (x4, y6),
    (x5, y6), (hc, f.h), (x2, y6), (x3, y6), (x3, y4), (x1, y4), (x1, y5)]

/-- An arrow with heads to the left, to the right and upwards. -/
def leftRightUp (f : Frame α) : Guided (Path α) := do
  let ⟨x1, dx2, dx3⟩ ← heads f fun width => (100000 - width) / 2
  let hc := f.hc
  let x2 := hc - dx2
  let x5 := hc + dx2
  let x3 := hc - dx3
  let x4 := hc + dx3
  let x6 := f.w - x1
  let y2 := f.h - 2 * dx2
  let y4 := f.h - dx2
  let y3 := y4 - dx3
  let y5 := y4 + dx3
  return .polygon [(0, y4), (x1, y2), (x1, y3), (x3, y3), (x3, x1), (x2, x1), (hc, 0), (x5, x1),
    (x4, x1), (x4, y3), (x6, y3), (x6, y2), (f.w, y4), (x6, f.h), (x6, y5), (x1, y5), (x1, f.h)]

/-- An arrow with heads to the left and upwards. -/
def leftUp (f : Frame α) : Guided (Path α) := do
  let ⟨x1, dx2, dx3⟩ ← heads f fun width => 100000 - width
  let x2 := f.w - 2 * dx2
  let y2 := f.h - 2 * dx2
  let x4 := f.w - dx2
  let y4 := f.h - dx2
  let x3 := x4 - dx3
  let x5 := x4 + dx3
  let y3 := y4 - dx3
  let y5 := y4 + dx3
  return .polygon [(0, y4), (x1, y2), (x1, y3), (x3, y3), (x3, x1), (x2, x1), (x4, 0), (f.w, x1),
    (x5, x1), (x5, y5), (x1, y5), (x1, f.h)]

/-- A shaft from the left that turns upwards with a square elbow. -/
def bentUp (f : Frame α) : Guided (Path α) := do
  let a1 := pin 0 (← f.adj "adj1") 50000
  let a2 := pin 0 (← f.adj "adj2") 50000
  let y1 ← f.shortShare "adj3" 50000
  let x1 := f.w - f.ss * a2 / 50000
  let x3 := f.w - f.ofShort a2
  let dx2 := f.ss * a1 / 200000
  let x2 := x3 - dx2
  let x4 := x3 + dx2
  let y2 := f.h - f.ofShort a1
  return .polygon [(0, y2), (x2, y2), (x2, y1), (x1, y1), (x3, 0), (f.w, y1), (x4, y1), (x4, f.h),
    (0, f.h)]

/-- A shaft from below that turns to the right with a round elbow. -/
def bent (f : Frame α) : Guided (Path α) := do
  let a2 := pin 0 (← f.adj "adj2") 50000
  let a1 := pin 0 (← f.adj "adj1") (a2 * 2)
  let ah ← f.shortShare "adj3" 50000
  let th := f.ofShort a1
  let aw2 := f.ofShort a2
  let dh2 := aw2 - th / 2
  let room := Scalar.min (f.w - ah) (f.h - dh2)
  let bd ← f.shortShare "adj4" (f.maxAdj room)
  let bd2 := Scalar.max (bd - th) 0
  let x3 := th + bd2
  let x4 := f.w - ah
  let y3 := dh2 + th
  let y4 := y3 + dh2
  let y5 := dh2 + bd
  return .drawn
    [.moveTo 0 f.h, .lineTo 0 y5, .arcTo bd bd 180 90, .lineTo x4 dh2, .lineTo x4 0,
      .lineTo f.w aw2, .lineTo x4 y4, .lineTo x4 y3, .lineTo x3 y3, .arcTo bd2 bd2 270 (-90),
      .lineTo th f.h, .close]

/-- A shaft from below that turns round and points downwards. -/
def uTurn (f : Frame α) : Guided (Path α) := do
  let a2 := pin 0 (← f.adj "adj2") 25000
  let a1 := pin 0 (← f.adj "adj1") (a2 * 2)
  let q3 := 100000 - quotient (a1 * f.ss) f.h
  let a3 := pin 0 (← f.adj "adj3") (quotient (q3 * f.h) f.ss)
  let min5 := quotient ((a3 + a1) * f.ss) f.h
  let a5 := pin min5 (← f.adj "adj5") 100000
  let th := f.ofShort a1
  let aw2 := f.ofShort a2
  let dh2 := aw2 - th / 2
  let y5 := f.ofHeight a5
  let ah := f.ofShort a3
  let y4 := y5 - ah
  let x9 := f.w - dh2
  let room := Scalar.min (x9 / 2) y4
  let bd ← f.shortShare "adj4" (f.maxAdj room)
  let bd2 := Scalar.max (bd - th) 0
  let x3 := th + bd2
  let x8 := f.w - aw2
  let x6 := x8 - aw2
  let x7 := x6 + dh2
  let x4 := x9 - bd
  return .drawn
    [.moveTo 0 f.h, .lineTo 0 bd, .arcTo bd bd 180 90, .lineTo x4 0, .arcTo bd bd 270 90,
      .lineTo x9 y4, .lineTo f.w y4, .lineTo x8 y5, .lineTo x6 y4, .lineTo x7 y4, .lineTo x7 x3,
      .arcTo bd2 bd2 0 (-90), .lineTo x3 th, .arcTo bd2 bd2 270 (-90), .lineTo th f.h, .close]

end ShapeOutline.Preset.BlockArrow
