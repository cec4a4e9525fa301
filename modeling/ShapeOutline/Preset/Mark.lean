import ShapeOutline.Preset.Polygon
import ShapeOutline.Preset.Equation

/-!
# Tabs and chart marks

Small tabs in the corners of the box, and the marks of a chart: a box crossed by lines.
-/

namespace ShapeOutline.Preset.Mark

open Instruction (polygon segment)
open Equation (bar)

variable {α : Type} [Scalar α]

/-- The size of a tab: a twentieth of the diagonal. -/
def tabSize (f : Frame α) : α := Scalar.hypot f.w f.h / 20

/-- Triangles in the corners. -/
def cornerTabs (f : Frame α) : Path α :=
  let d := tabSize f
  .drawn <|
    polygon [(0, 0), (d, 0), (0, d)] ++ polygon [(0, f.h - d), (d, f.h), (0, f.h)] ++
      polygon [(f.w - d, 0), (f.w, 0), (f.w, d)] ++
      polygon [(f.w, f.h - d), (f.w, f.h), (f.w - d, f.h)]

/-- Squares in the corners. -/
def squareTabs (f : Frame α) : Path α :=
  let d := tabSize f
  .drawn <|
    bar 0 0 d d ++ bar 0 (f.h - d) d f.h ++ bar (f.w - d) 0 f.w d ++
      bar (f.w - d) (f.h - d) f.w f.h

/-- Quarter circles in the corners. -/
def plaqueTabs (f : Frame α) : Path α :=
  let d := tabSize f
  .drawn
    [.moveTo 0 0, .lineTo d 0, .arcTo d d 0 90, .close,
      .moveTo 0 (f.h - d), .arcTo d d 270 90, .lineTo 0 f.h, .close,
      .moveTo f.w d, .arcTo d d 90 90, .lineTo f.w 0, .close,
      .moveTo (f.w - d) f.h, .arcTo d d 180 90, .lineTo f.w f.h, .close]

/-- The box and its diagonals. -/
def diagonals (f : Frame α) : Path α :=
  .drawn (.append (Polygon.rect f) :: segment 0 0 f.w f.h ++ segment 0 f.h f.w 0)

/-- The box, its diagonals and a vertical line. -/
def asterisk (f : Frame α) : Path α :=
  .drawn (.append (diagonals f) :: segment f.hc 0 f.hc f.h)

/-- The box and its axes. -/
def axes (f : Frame α) : Path α :=
  .drawn (.append (Polygon.rect f) :: segment f.hc 0 f.hc f.h ++ segment 0 f.vc f.w f.vc)

end ShapeOutline.Preset.Mark
