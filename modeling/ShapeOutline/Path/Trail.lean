import ShapeOutline.Path

/-!
# Where a path leads

Running through a path, the pen has a position, its subpath has a beginning, and the last drawing
command has a direction of travel. From these come the two ends of a path and the directions in
which an arrowhead at an end points.
-/

namespace ShapeOutline

open Scalar (tolerance)

variable {α : Type} [Scalar α]

/-- What is known of the pen after some commands: where it is, where its subpath began, and the way
it travelled last. A move has no direction of travel. -/
structure Trail (α : Type) where
  pen : Option (Point α)
  start : Option (Point α)
  heading : Option (Point α)

namespace Command

/-- The first of some displacements that is not negligible. -/
def firstProper (candidates : List (Point α)) : Point α :=
  (candidates.find? fun d => tolerance * tolerance < d.normSquared).getD Point.origin

/-- The direction of travel along an arc at one of its angles. -/
def arcTangent (a : Arc α) (deg : α) : Point α :=
  let sc := sinCos deg
  let sense : α := if a.start ≤ a.stop then 1 else -1
  Point.times ⟨-a.rx * sc.1, a.ry * sc.2⟩ sense

/-- The direction of travel where the command leaves `pen`. -/
def leaving (pen : Point α) : Command α → Point α
  | lineTo p => p - pen
  | cubicTo c1 c2 p => firstProper [c1 - pen, c2 - pen, p - pen]
  | arcTo a => arcTangent a a.start
  | _ => Point.origin

/-- The direction of travel where the command, begun at `pen`, arrives. -/
def arriving (pen : Point α) : Command α → Point α
  | lineTo p => p - pen
  | cubicTo c1 c2 p => firstProper [p - c2, p - c1, p - pen]
  | arcTo a => arcTangent a a.stop
  | _ => Point.origin

end Command

namespace Trail

/-- Nothing drawn yet. -/
def fresh : Trail α := ⟨none, none, none⟩

/-- The trail after one more command. Without a pen, travel is taken from the origin. -/
def step (t : Trail α) : Command α → Trail α
  | .moveTo p => ⟨some p, some p, none⟩
  | .close => ⟨t.start, t.start, some (t.start.getD Point.origin - t.pen.getD Point.origin)⟩
  | c => ⟨c.endPoint?, t.start, some (c.arriving (t.pen.getD Point.origin))⟩

end Trail

namespace Path

/-- The trail of the whole path. -/
def trail (p : Path α) : Trail α := p.commands.foldl Trail.step Trail.fresh

/-- The first point of the path. -/
def startPoint (p : Path α) : Option (Point α) := p.commands.findSome? Command.endPoint?

/-- Where the pen rests at the end. -/
def endPoint (p : Path α) : Option (Point α) := p.trail.pen

/-- The unit direction in which the path leaves its first point. -/
def startDirection (p : Path α) : Option (Point α) :=
  match p.commands with
  | .moveTo q :: c :: _ => (c.leaving q).unit?
  | _ => none

/-- The unit direction in which the path arrives at its end. -/
def endDirection (p : Path α) : Option (Point α) := p.trail.heading.bind Point.unit?

end Path

end ShapeOutline
