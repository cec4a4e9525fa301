import ShapeOutline.Preset.Polygon
import ShapeOutline.Preset.Rectangle
import ShapeOutline.Preset.Round

/-!
# Flowchart symbols

Most are fixed outlines in a small space of their own that is stretched over the box.
-/

namespace ShapeOutline.Preset.Flowchart

open Instruction (polygon segment)
open Scalar (direction)

variable {α : Type} [Scalar α]

/-- A polygon in a square space of side `n`. -/
def glyph (f : Frame α) (n : α) (points : List (α × α)) : Path α :=
  .drawnIn f.w f.h n n (polygon points)

/-- Input or output. -/
def inputOutput (f : Frame α) : Path α := glyph f 5 [(0, 5), (1, 0), (5, 0), (4, 5)]

/-- A predefined process. -/
def predefinedProcess (f : Frame α) : Path α :=
  let x1 := f.w / 8
  let x2 := f.w * 7 / 8
  .drawn (.append (Polygon.rect f) :: segment x1 0 x1 f.h ++ segment x2 0 x2 f.h)

/-- Internal storage. -/
def internalStorage (f : Frame α) : Path α :=
  let x1 := f.w / 8
  let y1 := f.h / 8
  .drawn (.append (Polygon.rect f) :: segment x1 0 x1 f.h ++ segment 0 y1 f.w y1)

/-- A document. -/
def document (f : Frame α) : Path α :=
  .drawnIn f.w f.h 21600 21600
    [.moveTo 0 0, .lineTo 21600 0, .lineTo 21600 17322,
      .cubicTo 10800 17322 10800 23922 0 20172, .close]

/-- Three documents, the front one below and to the left of the others. -/
def multidocument (f : Frame α) : Path α :=
  .drawnIn f.w f.h 21600 21600
    [.moveTo 0 20782, .cubicTo 9298 23542 9298 18022 18595 18022, .lineTo 18595 3675,
      .lineTo 0 3675, .close,
      .moveTo 1532 3675, .lineTo 1532 1815, .lineTo 20000 1815, .lineTo 20000 16252,
      .cubicTo 19298 16252 18595 16352 18595 16352, .lineTo 18595 3675, .close,
      .moveTo 2972 1815, .lineTo 2972 0, .lineTo 21600 0, .lineTo 21600 14392,
      .cubicTo 20800 14392 20000 14467 20000 14467, .lineTo 20000 1815, .close]

/-- A beginning or an end. -/
def terminator (f : Frame α) : Path α :=
  .drawnIn f.w f.h 21600 21600
    [.moveTo 3475 0, .lineTo 18125 0, .arcTo 3475 10800 270 180, .lineTo 3475 21600,
      .arcTo 3475 10800 90 180, .close]

/-- A preparation. -/
def preparation (f : Frame α) : Path α :=
  glyph f 10 [(0, 5), (2, 0), (8, 0), (10, 5), (8, 10), (2, 10)]

/-- Manual input. -/
def manualInput (f : Frame α) : Path α := glyph f 5 [(0, 1), (5, 0), (5, 5), (0, 5)]

/-- A manual operation. -/
def manualOperation (f : Frame α) : Path α := glyph f 5 [(0, 0), (5, 0), (4, 5), (1, 5)]

/-- A punched card. -/
def punchedCard (f : Frame α) : Path α := glyph f 5 [(0, 1), (1, 0), (5, 0), (5, 5), (0, 5)]

/-- A punched tape. -/
def punchedTape (f : Frame α) : Path α :=
  .drawnIn f.w f.h 20 20
    [.moveTo 0 2, .arcTo 5 2 180 (-180), .arcTo 5 2 180 180, .lineTo 20 18, .arcTo 5 2 0 (-180),
      .arcTo 5 2 0 180, .close]

/-- A summing junction: the ellipse and its diagonals. -/
def summingJunction (f : Frame α) : Path α :=
  let (s, c) := sinCos (45 : α)
  let idx := f.wd2 * c
  let idy := f.hd2 * s
  let il := f.hc - idx
  let ir := f.hc + idx
  let it := f.vc - idy
  let ib := f.vc + idy
  .drawn (.append (Round.ellipse f) :: segment il it ir ib ++ segment ir it il ib)

/-- A logical or: the ellipse and its axes. -/
def logicalOr (f : Frame α) : Path α :=
  .drawn (.append (Round.ellipse f) :: segment f.hc 0 f.hc f.h ++ segment 0 f.vc f.w f.vc)

/-- A collation. -/
def collate (f : Frame α) : Path α := glyph f 2 [(0, 0), (2, 0), (1, 1), (2, 2), (0, 2), (1, 1)]

/-- A sort. -/
def sort (f : Frame α) : Path α :=
  .drawnIn f.w f.h 2 2 (polygon [(0, 1), (1, 0), (2, 1), (1, 2)] ++ segment 0 1 2 1)

/-- An extraction. -/
def extract (f : Frame α) : Path α := glyph f 2 [(0, 2), (1, 0), (2, 2)]

/-- A merge. -/
def merge (f : Frame α) : Path α := glyph f 2 [(0, 0), (2, 0), (1, 2)]

/-- Offline storage. -/
def offlineStorage (f : Frame α) : Path α :=
  .drawnIn f.w f.h 5 5 (polygon [(0, 0), (5, 0), (2.5, 5)] ++ segment 2 4 3 4)

/-- Online storage. -/
def onlineStorage (f : Frame α) : Path α :=
  .drawnIn f.w f.h 6 6
    [.moveTo 1 0, .lineTo 6 0, .arcTo 1 3 270 (-180), .lineTo 1 6, .arcTo 1 3 90 180, .close]

/-- A magnetic tape. -/
def magneticTape (f : Frame α) : Path α :=
  let (s, _) := sinCos (45 : α)
  let ib := f.vc + f.hd2 * s
  let diagonal := direction f.w f.h
  .drawn
    [.moveTo f.hc f.h, .arcTo f.wd2 f.hd2 90 90, .arcTo f.wd2 f.hd2 180 90,
      .arcTo f.wd2 f.hd2 270 90, .arcTo f.wd2 f.hd2 0 diagonal, .lineTo f.w ib, .lineTo f.w f.h,
      .close]

/-- A magnetic disk. -/
def magneticDisk (f : Frame α) : Path α :=
  .drawnIn f.w f.h 6 6
    [.moveTo 0 1, .arcTo 3 1 180 180, .lineTo 6 5, .arcTo 3 1 0 180, .close,
      .moveTo 6 1, .arcTo 3 1 0 180]

/-- A magnetic drum. -/
def magneticDrum (f : Frame α) : Path α :=
  .drawnIn f.w f.h 6 6
    [.moveTo 1 0, .lineTo 5 0, .arcTo 1 3 270 180, .lineTo 1 6, .arcTo 1 3 90 180, .close,
      .moveTo 5 6, .arcTo 1 3 90 180]

/-- A display. -/
def display (f : Frame α) : Path α :=
  .drawnIn f.w f.h 6 6
    [.moveTo 0 3, .lineTo 1 0, .lineTo 5 0, .arcTo 1 3 270 180, .lineTo 1 6, .close]

/-- A delay. -/
def delay (f : Frame α) : Path α :=
  .drawn [.moveTo 0 0, .lineTo f.hc 0, .arcTo f.wd2 f.hd2 270 180, .lineTo 0 f.h, .close]

/-- An alternate process. -/
def alternateProcess (f : Frame α) : Path α :=
  Rectangle.cornered f.w f.h (.all (.round (f.ss / 6)))

/-- A connector to another page. -/
def offpageConnector (f : Frame α) : Path α :=
  glyph f 10 [(0, 0), (10, 0), (10, 8), (5, 10), (0, 8)]

end ShapeOutline.Preset.Flowchart
