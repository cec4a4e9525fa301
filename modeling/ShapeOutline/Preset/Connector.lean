import ShapeOutline.Preset.Frame

/-!
# Lines and connectors

Open outlines from the top-left to the bottom-right corner; the inverted line runs from the bottom
left to the top right. The guides of connectors are not clamped: elbows may lie outside the box.
-/

namespace ShapeOutline.Preset.Connector

variable {α : Type} [Scalar α]

/-- An open chain of lines. -/
def chain (points : List (α × α)) : Path α := .drawn (Instruction.polyline points)

/-- A straight line. -/
def line (f : Frame α) : Path α := chain [(0, 0), (f.w, f.h)]

/-- The other diagonal. -/
def lineInverted (f : Frame α) : Path α := chain [(0, f.h), (f.w, 0)]

/-- Two legs. -/
def bent2 (f : Frame α) : Path α := chain [(0, 0), (f.w, 0), (f.w, f.h)]

/-- Three legs. -/
def bent3 (f : Frame α) : Guided (Path α) := do
  let x1 := f.ofWidth (← f.adj "adj1")
  return chain [(0, 0), (x1, 0), (x1, f.h), (f.w, f.h)]

/-- Four legs. -/
def bent4 (f : Frame α) : Guided (Path α) := do
  let x1 := f.ofWidth (← f.adj "adj1")
  let y2 := f.ofHeight (← f.adj "adj2")
  return chain [(0, 0), (x1, 0), (x1, y2), (f.w, y2), (f.w, f.h)]

/-- Five legs. -/
def bent5 (f : Frame α) : Guided (Path α) := do
  let x1 := f.ofWidth (← f.adj "adj1")
  let y2 := f.ofHeight (← f.adj "adj2")
  let x3 := f.ofWidth (← f.adj "adj3")
  return chain [(0, 0), (x1, 0), (x1, y2), (x3, y2), (x3, f.h), (f.w, f.h)]

/-- One curve. -/
def curved2 (f : Frame α) : Path α :=
  .drawn [.moveTo 0 0, .cubicTo f.wd2 0 f.w f.hd2 f.w f.h]

/-- Two curves. -/
def curved3 (f : Frame α) : Guided (Path α) := do
  let x2 := f.ofWidth (← f.adj "adj1")
  let x1 := x2 / 2
  let x3 := (f.w + x2) / 2
  return .drawn
    [.moveTo 0 0, .cubicTo x1 0 x2 (f.h / 4) x2 f.vc, .cubicTo x2 (f.h * 3 / 4) x3 f.h f.w f.h]

/-- Three curves. -/
def curved4 (f : Frame α) : Guided (Path α) := do
  let x2 := f.ofWidth (← f.adj "adj1")
  let x1 := x2 / 2
  let x3 := (f.w + x2) / 2
  let x4 := (x2 + x3) / 2
  let x5 := (x3 + f.w) / 2
  let y4 := f.ofHeight (← f.adj "adj2")
  let y1 := y4 / 2
  let y2 := y1 / 2
  let y3 := (y1 + y4) / 2
  let y5 := (f.h + y4) / 2
  return .drawn
    [.moveTo 0 0, .cubicTo x1 0 x2 y2 x2 y1, .cubicTo x2 y3 x4 y4 x3 y4,
      .cubicTo x5 y4 f.w y5 f.w f.h]

/-- Four curves. -/
def curved5 (f : Frame α) : Guided (Path α) := do
  let x3 := f.ofWidth (← f.adj "adj1")
  let x6 := f.ofWidth (← f.adj "adj3")
  let x1 := (x3 + x6) / 2
  let x2 := x3 / 2
  let x4 := (x3 + x1) / 2
  let x5 := (x6 + x1) / 2
  let x7 := (x6 + f.w) / 2
  let y4 := f.ofHeight (← f.adj "adj2")
  let y1 := y4 / 2
  let y2 := y1 / 2
  let y3 := (y1 + y4) / 2
  let y5 := (f.h + y4) / 2
  let y6 := (y5 + y4) / 2
  let y7 := (y5 + f.h) / 2
  return .drawn
    [.moveTo 0 0, .cubicTo x2 0 x3 y2 x3 y1, .cubicTo x3 y3 x4 y4 x1 y4,
      .cubicTo x5 y4 x6 y6 x6 y5, .cubicTo x6 y7 x7 f.h f.w f.h]

end ShapeOutline.Preset.Connector
