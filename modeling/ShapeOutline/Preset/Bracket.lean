import ShapeOutline.Preset.Frame

/-!
# Brackets and braces

Open strokes without an interior. The left ones run upwards, the right ones downwards.
-/

namespace ShapeOutline.Preset.Bracket

open Scalar (pin quotient)

variable {α : Type} [Scalar α]

/-- The height of the curved ends of a bracket. -/
def curveHeight (f : Frame α) : Guided α := f.shortShare "adj" (f.maxAdj f.hd2)

/-- A left bracket. -/
def leftBracket (f : Frame α) : Guided (Path α) := do
  let y1 ← curveHeight f
  return .drawn
    [.moveTo f.w f.h, .arcTo f.w y1 90 90, .lineTo 0 y1, .arcTo f.w y1 180 90]

/-- A right bracket. -/
def rightBracket (f : Frame α) : Guided (Path α) := do
  let y1 ← curveHeight f
  return .drawn
    [.moveTo 0 0, .arcTo f.w y1 270 90, .lineTo f.w (f.h - y1), .arcTo f.w y1 0 90]

/-- The height of the curved ends of a brace, and that of its tip. -/
def braceParts (f : Frame α) : Guided (α × α) := do
  let a2 := pin 0 (← f.adj "adj2") 100000
  let q3 := Scalar.min (100000 - a2) a2 / 2
  let y1 ← f.shortShare "adj1" (quotient (q3 * f.h) f.ss)
  return (y1, f.ofHeight a2)

/-- A left brace. -/
def leftBrace (f : Frame α) : Guided (Path α) := do
  let (y1, y3) ← braceParts f
  return .drawn
    [.moveTo f.w f.h, .arcTo f.wd2 y1 90 90, .lineTo f.hc (y3 + y1), .arcTo f.wd2 y1 0 (-90),
      .arcTo f.wd2 y1 90 (-90), .lineTo f.hc y1, .arcTo f.wd2 y1 180 90]

/-- A right brace. -/
def rightBrace (f : Frame α) : Guided (Path α) := do
  let (y1, y3) ← braceParts f
  return .drawn
    [.moveTo 0 0, .arcTo f.wd2 y1 270 90, .lineTo f.hc (y3 - y1), .arcTo f.wd2 y1 180 (-90),
      .arcTo f.wd2 y1 270 (-90), .lineTo f.hc (f.h - y1), .arcTo f.wd2 y1 0 90]

/-- A left and a right bracket. -/
def bracketPair (f : Frame α) : Guided (Path α) := do
  let x1 ← f.shortShare "adj" 50000
  let x2 := f.w - x1
  let y2 := f.h - x1
  return .drawn
    [.moveTo x1 f.h, .arcTo x1 x1 90 90, .lineTo 0 x1, .arcTo x1 x1 180 90,
      .moveTo x2 0, .arcTo x1 x1 270 90, .lineTo f.w y2, .arcTo x1 x1 0 90]

/-- A left and a right brace. -/
def bracePair (f : Frame α) : Guided (Path α) := do
  let x1 ← f.shortShare "adj" 25000
  let x2 := x1 * 2
  let x3 := f.w - x2
  let x4 := f.w - x1
  let y2 := f.vc - x1
  let y3 := f.vc + x1
  let y4 := f.h - x1
  return .drawn
    [.moveTo x2 f.h, .arcTo x1 x1 90 90, .lineTo x1 y3, .arcTo x1 x1 0 (-90),
      .arcTo x1 x1 90 (-90), .lineTo x1 x1, .arcTo x1 x1 180 90,
      .moveTo x3 0, .arcTo x1 x1 270 90, .lineTo x4 y2, .arcTo x1 x1 180 (-90),
      .arcTo x1 x1 270 (-90), .lineTo x4 y4, .arcTo x1 x1 0 90]

end ShapeOutline.Preset.Bracket
