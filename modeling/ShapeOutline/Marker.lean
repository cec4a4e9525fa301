import ShapeOutline.Path.Trail
import ShapeOutline.Pen
import ShapeOutline.Stroke

/-!
# Arrowheads

A decorated end of a line gets a marker: a triangle, or an arrow that is an open chevron. Its tip is
the end of the path and it points the way the path leaves the shape there. Decorations of other
kinds have no marker, nor has an end without a direction.
-/

namespace ShapeOutline

/-- The two ends of a path: where it starts, and where it stops. -/
inductive PathEnd where
  | head
  | tail
deriving DecidableEq, Repr

/-- The kinds of markers. -/
inductive MarkerKind where
  | triangle
  | arrow
deriving DecidableEq, Repr

/-- The marker of a decoration, if it has one. -/
def LineEndKind.marker? : LineEndKind → Option MarkerKind
  | triangle => some .triangle
  | arrow => some .arrow
  | _ => Option.none

/-- A marker: the end it is at, where its tip is, the unit direction in which it points, and its
extent across that direction and along it. -/
structure Marker (α : Type) where
  side : PathEnd
  kind : MarkerKind
  tip : Point α
  direction : Point α
  width : α
  length : α

variable {α : Type} [Scalar α]

namespace Marker

/-- The outline of a marker, from corner to tip to corner. A triangle begins at its tip and is
closed. -/
def outline (m : Marker α) : Path α :=
  let back := m.tip - m.direction.times m.length
  let across := Point.times ⟨-m.direction.y, m.direction.x⟩ (m.width / 2)
  let left := back + across
  let right := back - across
  let tip := (m.tip.x, m.tip.y)
  match m.kind with
  | .arrow => .drawn (Instruction.polyline [(left.x, left.y), tip, (right.x, right.y)])
  | .triangle => .drawn (Instruction.polygon [tip, (left.x, left.y), (right.x, right.y)])

/-- The marker for a decoration at an end of a path, sized by the width of the line. -/
def ofLineEnd (defaults : PaintDefaults α) (lineWidth : α) (side : PathEnd)
    (decoration : Option LineEnd) (tip direction : Option (Point α)) : Option (Marker α) := do
  let decoration ← decoration
  let kind ← decoration.kind.marker?
  let tip ← tip
  let direction ← direction
  return {
    side, kind, tip, direction
    width := lineWidth * defaults.factor decoration.width
    length := lineWidth * defaults.factor decoration.length }

end Marker

/-- The markers at the ends of a path, the one at its start first. -/
def Path.markers (path : Path α) (line : Option (LineSpec α)) (lineWidth : α)
    (defaults : PaintDefaults α) : List (Marker α) :=
  let marker := Marker.ofLineEnd defaults lineWidth
  let head :=
    marker .head (line.bind (·.head)) path.startPoint (path.startDirection.map fun d => -d)
  let tail := marker .tail (line.bind (·.tail)) path.endPoint path.endDirection
  head.toList ++ tail.toList

end ShapeOutline
