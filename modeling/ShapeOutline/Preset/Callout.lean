import ShapeOutline.Preset.Frame

/-!
# Callouts

Speech bubbles with a wedge, clouds, and boxes with leader lines. A tip lies where its guides say,
inside the box or not.
-/

namespace ShapeOutline.Preset.Callout

open Instruction (polygon polyline segment ellipse)
open Scalar (quotient direction)

variable {α : Type} [Scalar α]

/-- The displacement of the tip from the centre of the box. -/
def tipOffset (f : Frame α) : Guided (α × α) := do
  return (f.ofWidth (← f.adj "adj1"), f.ofHeight (← f.adj "adj2"))

/-- `y` when `x` is positive, else `z`. -/
def whenPositive (x y z : α) : α := if 0 < x then y else z

/-- Where the outline of a bubble leaves its sides: `x1` and `x2` on the top and the bottom, `y1`
and `y2` on the left and the right; and the point to which each side bends between the two, the tip
on one side and the first of the two elsewhere. -/
structure Wedge (α : Type) where
  x1 : α
  x2 : α
  y1 : α
  y2 : α
  left : α × α
  top : α × α
  right : α × α
  bottom : α × α

/-- The wedge to a tip. It leaves the side that the tip faces when the box is made square, in the
half of that side that is nearer to the tip. -/
def wedge (f : Frame α) (dx dy : α) : Wedge α :=
  let x := f.hc + dx
  let y := f.vc + dy
  let sideways := Scalar.abs (quotient (dx * f.h) f.w) - Scalar.abs dy
  let x1 := f.w * whenPositive dx 7 2 / 12
  let x2 := f.w * whenPositive dx 10 5 / 12
  let y1 := f.h * whenPositive dy 7 2 / 12
  let y2 := f.h * whenPositive dy 10 5 / 12
  { x1, x2, y1, y2
    left :=
      (whenPositive sideways (whenPositive dx 0 x) 0,
        whenPositive sideways (whenPositive dx y1 y) y1)
    top :=
      (whenPositive sideways x1 (whenPositive dy x1 x),
        whenPositive sideways 0 (whenPositive dy 0 y))
    right :=
      (whenPositive sideways (whenPositive dx x f.w) f.w,
        whenPositive sideways (whenPositive dx y y1) y1)
    bottom :=
      (whenPositive sideways x1 (whenPositive dy x x1),
        whenPositive sideways f.h (whenPositive dy y f.h)) }

/-- The outline of a box with a wedge, its corners rounded when the radius is positive. -/
def Wedge.outline (v : Wedge α) (w h radius : α) : Path α :=
  let rounded := decide (0 < radius)
  let corner (x y start cx cy : α) : List (Instruction α) :=
    if rounded then [.lineTo x y, .arcTo radius radius start 90] else [.lineTo cx cy]
  .drawn <|
    (if rounded then [.moveTo 0 radius, .arcTo radius radius 180 90] else [.moveTo 0 0]) ++
      [.lineTo v.x1 0, .lineTo v.top.1 v.top.2, .lineTo v.x2 0] ++
      corner (w - radius) 0 270 w 0 ++
      [.lineTo w v.y1, .lineTo v.right.1 v.right.2, .lineTo w v.y2] ++
      corner w (h - radius) 0 w h ++
      [.lineTo v.x2 h, .lineTo v.bottom.1 v.bottom.2, .lineTo v.x1 h] ++
      corner radius h 90 0 h ++
      [.lineTo 0 v.y2, .lineTo v.left.1 v.left.2, .lineTo 0 v.y1, .close]

/-- A rectangular bubble. -/
def wedgeRect (f : Frame α) : Guided (Path α) := do
  let (dx, dy) ← tipOffset f
  return (wedge f dx dy).outline f.w f.h 0

/-- A rectangular bubble with rounded corners. -/
def wedgeRoundRect (f : Frame α) : Guided (Path α) := do
  let radius := f.ofShort (← f.adj "adj3")
  let (dx, dy) ← tipOffset f
  return (wedge f dx dy).outline f.w f.h radius

/-- An elliptical bubble. The wedge takes eleven degrees to either side of the direction of the
tip. -/
def wedgeEllipse (f : Frame α) : Guided (Path α) := do
  let (dx, dy) ← tipOffset f
  let toTip := direction (dx * f.h) (dy * f.w)
  let (s1, c1) := sinCos (toTip + 11)
  let (s2, c2) := sinCos (toTip - 11)
  let dx1 := f.wd2 * c1
  let dy1 := f.hd2 * s1
  let dx2 := f.wd2 * c2
  let dy2 := f.hd2 * s2
  let start := direction dx1 dy1
  let turn := direction dx2 dy2 - start
  let sweep := if 0 < turn then turn else turn + 360
  return .drawn
    [.moveTo (f.hc + dx1) (f.vc + dy1), .lineTo (f.hc + dx) (f.vc + dy),
      .lineTo (f.hc + dx2) (f.vc + dy2), .arcTo f.wd2 f.hd2 start sweep, .close]

/-- The arcs of a cloud: radii, start angle and sweep, in a space of its own. -/
def cloudArcs : List (α × α × α × α) :=
  [(6753, 9190, -11429249, 7426832), (5333, 7267, -8646143, 5396714),
    (4365, 5945, -8748475, 5983381), (4857, 6595, -7859164, 7034504),
    (5333, 7273, -4722533, 6541615), (6775, 9220, -2776035, 7816140),
    (5785, 7867, 37501, 6842000), (6752, 9215, 1347096, 6910353),
    (7720, 10543, 3974558, 4542661), (4360, 5918, -16496525, 8804134),
    (4345, 5945, -14809710, 9151131)]

/-- A cloud. -/
def cloud (f : Frame α) : Path α :=
  let arcs : List (Instruction α) :=
    cloudArcs.map fun (wr, hr, start, sweep) => .arcTo wr hr (start / 60000) (sweep / 60000)
  .drawnIn f.w f.h 43200 43200 (.moveTo 3900 14370 :: arcs ++ [.close])

/-- A cloud, and three bubbles that shrink towards the tip. They lie on the line from where the
ellipse of the box is left towards the tip. -/
def cloudCallout (f : Frame α) : Guided (Path α) := do
  let (dx, dy) ← tipOffset f
  let x := f.hc + dx
  let y := f.vc + dy
  let (s1, c1) := sinCos (direction dx dy)
  let ht := f.hd2 * c1
  let wt := f.wd2 * s1
  let (s2, c2) := sinCos (direction ht wt)
  let g6 := f.hc + f.wd2 * c2 - x
  let g7 := f.vc + f.hd2 * s2 - y
  let g8 := Scalar.hypot g6 g7
  let unit := f.ss / 21600
  let step := (g8 - 6600 * unit) / 3
  let small := 600 * unit
  let medium := 1200 * unit
  let large := 1800 * unit
  let along (d : α) : α × α := (x + quotient (d * g6) g8, y + quotient (d * g7) g8)
  let middle := along (step + large)
  let far := along (4800 * unit + step * 2)
  let bubbles : Path α := .drawn <|
    ellipse x y small small ++ ellipse middle.1 middle.2 medium medium ++
      ellipse far.1 far.2 large large
  return cloud f ++ bubbles

/-- The guides of a leader line: for each of its points the height, then the position along the
width. -/
def leaderGuides : List (String × String) :=
  [("adj1", "adj2"), ("adj3", "adj4"), ("adj5", "adj6"), ("adj7", "adj8")]

/-- The points of a leader line. -/
def leader (f : Frame α) (points : Nat) : Guided (List (α × α)) :=
  (leaderGuides.take points).mapM fun (vertical, horizontal) => do
    let x := f.ofWidth (← f.adj horizontal)
    let y := f.ofHeight (← f.adj vertical)
    return (x, y)

/-- A box with a leader line, and with a bar where the line begins if it has an accent. -/
def boxed (points : Nat) (accent : Bool) (f : Frame α) : Guided (Path α) := do
  let line ← leader f points
  let bar :=
    match accent, line with
    | true, first :: _ => segment first.1 0 first.1 f.h
    | _, _ => []
  return .drawn (polygon [(0, 0), (f.w, 0), (f.w, f.h), (0, f.h)] ++ bar ++ polyline line)

end ShapeOutline.Preset.Callout
