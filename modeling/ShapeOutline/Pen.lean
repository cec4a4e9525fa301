import ShapeOutline.Path.Transform

/-!
# Drawing with a pen

An outline is drawn by a list of instructions. Their coordinates live in a local space that is
stretched per axis onto the box of the shape, and some of them start where the pen is: arcs named by
their radii and angles, and quadratic curves.

* `Instruction`: what the pen is told to do;
* `Pen`: where it is, and whether it is drawing;
* `Pen.step`, `Pen.run`: the commands that instructions leave behind, and the pen after them;
* `Instruction.polygon`, `Instruction.ellipse`, ...: figures made of several instructions.

A fragment that is already a path can be appended. When a subpath is being drawn, the move at its
beginning becomes a line to the same point, which welds the two together.
-/

namespace ShapeOutline

variable {α : Type}

/-- What the pen is told to do. Angles are degrees; those of `arcTo` are the directions in which its
points are seen from the centre of the ellipse. -/
inductive Instruction (α : Type) where
  | moveTo (x y : α)
  | lineTo (x y : α)
  | cubicTo (x1 y1 x2 y2 x y : α)
  | quadTo (qx qy x y : α)
  | arcTo (wr hr start sweep : α)
  | arc (spec : Arc α) (wedge : Bool)
  | append (fragment : Path α)
  | close

namespace Instruction

/-- An open chain of lines through some points. -/
def polyline : List (α × α) → List (Instruction α)
  | [] => []
  | first :: rest => .moveTo first.1 first.2 :: rest.map fun p => .lineTo p.1 p.2

/-- A closed chain of lines through some points. -/
def polygon : List (α × α) → List (Instruction α)
  | [] => []
  | points => polyline points ++ [.close]

/-- A single line. -/
def segment (x1 y1 x2 y2 : α) : List (Instruction α) := [.moveTo x1 y1, .lineTo x2 y2]

/-- An ellipse, from its leftmost point. -/
def ellipse [Scalar α] (cx cy rx ry : α) : List (Instruction α) :=
  [.moveTo (cx - rx) cy, .arcTo rx ry 180 360, .close]

end Instruction

/-- The pen: the scale from its local space to the box, where it is and where its subpath began in
local space, and whether it has drawn since the last move. -/
structure Pen (α : Type) where
  scale : Point α
  position : Option (Point α)
  subpathStart : Option (Point α)
  drawing : Bool

namespace Pen

variable [Scalar α]

/-- A pen whose local space is the box itself. -/
def plain : Pen α := ⟨⟨1, 1⟩, none, none, false⟩

/-- The scale of one axis. A local space without extent is not stretched. -/
def factor (target extent : α) : α := if 0 < extent then target / extent else 1

/-- A pen whose local space is stretched onto a box. -/
def inSpace (targetW targetH localW localH : α) : Pen α :=
  { plain with scale := ⟨factor targetW localW, factor targetH localH⟩ }

/-- A point of local space in the box. -/
def toBox (pen : Pen α) (p : Point α) : Point α := p.stretch pen.scale

/-- The pen put down at a point of local space. -/
def movedTo (pen : Pen α) (p : Point α) : Pen α :=
  { pen with position := some p, subpathStart := some p, drawing := false }

/-- The pen after drawing to a point of local space. -/
def drawnTo (pen : Pen α) (p : Point α) : Pen α :=
  { pen with position := some p, drawing := true }

/-- Where drawing starts. A pen that was never put down is put down at the origin. -/
def ready (pen : Pen α) : Pen α × Point α × List (Command α) :=
  match pen.position with
  | some p => (pen, p, [])
  | none => (pen.movedTo Point.origin, Point.origin, [.moveTo (pen.toBox Point.origin)])

/-- Draws a line to a point. -/
def line (pen : Pen α) (p : Point α) : Pen α × List (Command α) :=
  let (pen, _, before) := pen.ready
  (pen.drawnTo p, before ++ [.lineTo (pen.toBox p)])

/-- Draws a cubic curve. -/
def cubic (pen : Pen α) (c1 c2 p : Point α) : Pen α × List (Command α) :=
  let (pen, _, before) := pen.ready
  (pen.drawnTo p, before ++ [.cubicTo (pen.toBox c1) (pen.toBox c2) (pen.toBox p)])

/-- The control point of a cubic curve on the side of `p`, for the quadratic one with control point
`q`. -/
def elevate (p q : Point α) : Point α := p + (q - p).times (2 / 3)

/-- Draws a quadratic curve, as the cubic one that is the same. -/
def quadratic (pen : Pen α) (q p : Point α) : Pen α × List (Command α) :=
  let (pen, start, before) := pen.ready
  let (pen, drawn) := pen.cubic (elevate start q) (elevate p q) p
  (pen, before ++ drawn)

/-- Draws along an ellipse with the given radii that passes through the pen in direction `start`
from its centre. Without an ellipse it is a line that goes nowhere. -/
def ellipticalArc (pen : Pen α) (wr hr start sweep : α) : Pen α × List (Command α) :=
  let (pen, p, before) := pen.ready
  if 0 < wr ∧ 0 < hr then
    let t0 := parametricAngle start wr hr
    let t1 := parametricAngle (start + sweep) wr hr
    let center := p - ellipsePoint Point.origin wr hr t0
    let arc : Arc α := ⟨pen.toBox center, wr * pen.scale.x, hr * pen.scale.y, t0, t1⟩
    (pen.drawnTo (ellipsePoint center wr hr t1), before ++ [.ofArc arc])
  else
    let (pen, drawn) := pen.line p
    (pen, before ++ drawn)

/-- The pen after a command that is given in the coordinates of the box. -/
def follow (pen : Pen α) : Command α → Pen α
  | .moveTo p => pen.movedTo (p.stretch ⟨1 / pen.scale.x, 1 / pen.scale.y⟩)
  | .close => { pen with position := pen.subpathStart, drawing := false }
  | c =>
    { pen with
      position := c.endPoint?.map fun p => p.stretch ⟨1 / pen.scale.x, 1 / pen.scale.y⟩
      drawing := true }

/-- Appends a fragment that is given in the coordinates of the box, welded to what is being
drawn. -/
def append (pen : Pen α) (fragment : Path α) : Pen α × List (Command α) :=
  match pen.drawing, fragment.commands with
  | true, .moveTo p :: rest => (rest.foldl follow pen, .lineTo p :: rest)
  | _, cs => (cs.foldl follow pen, cs)

/-- Closes the subpath, if the pen was ever put down. -/
def closed (pen : Pen α) : Pen α × List (Command α) :=
  match pen.position with
  | some _ => ({ pen with position := pen.subpathStart, drawing := false }, [.close])
  | none => (pen, [])

/-- Follows one instruction: the pen after it and the commands it leaves behind. -/
def step (pen : Pen α) : Instruction α → Pen α × List (Command α)
  | .moveTo x y => (pen.movedTo ⟨x, y⟩, [.moveTo (pen.toBox ⟨x, y⟩)])
  | .lineTo x y => pen.line ⟨x, y⟩
  | .cubicTo x1 y1 x2 y2 x y => pen.cubic ⟨x1, y1⟩ ⟨x2, y2⟩ ⟨x, y⟩
  | .quadTo qx qy x y => pen.quadratic ⟨qx, qy⟩ ⟨x, y⟩
  | .arcTo wr hr start sweep => pen.ellipticalArc wr hr start sweep
  | .arc spec wedge => pen.append ((Path.ofArc spec wedge).scaled pen.scale.x pen.scale.y)
  | .append fragment => pen.append fragment
  | .close => pen.closed

/-- Follows instructions in order. -/
def run (pen : Pen α) : List (Instruction α) → Pen α × List (Command α)
  | [] => (pen, [])
  | i :: rest =>
    let (pen, now) := pen.step i
    let (pen, later) := pen.run rest
    (pen, now ++ later)

/-- The path that instructions leave behind. -/
def draw (pen : Pen α) (instructions : List (Instruction α)) : Path α :=
  ⟨(pen.run instructions).2⟩

end Pen

namespace Path

variable [Scalar α]

/-- The path drawn by instructions in the coordinates of the box. -/
def drawn (instructions : List (Instruction α)) : Path α := Pen.plain.draw instructions

/-- The path drawn by instructions in a local space that is stretched onto a box. -/
def drawnIn (targetW targetH localW localH : α) (instructions : List (Instruction α)) : Path α :=
  (Pen.inSpace targetW targetH localW localH).draw instructions

end Path

end ShapeOutline
