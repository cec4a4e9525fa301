import ShapeOutline.Measure
import ShapeOutline.Pen

/-!
# Custom outlines

A document may spell out the outline of a shape itself. It stores the segments of a path in groups,
and with each segment a key that says when it is drawn: the groups are joined and the segments taken
by ascending key, those with equal keys as they stand in the document. Every path has a coordinate
space of its own, which is stretched onto the box of the shape.

* `Segment`, `CustomEntry`, `CustomPath`: what the document holds;
* `CustomPath.ordered`: its segments in drawing order;
* `CustomPath.outline`, `customOutline`: what they draw in a box.
-/

namespace ShapeOutline

/-- One segment of a custom path, in the space of the path. The angles of an arc count 60000ths of a
degree. -/
inductive Segment (α : Type) where
  | moveTo (p : Point α)
  | lineTo (p : Point α)
  | cubicTo (c1 c2 p : Point α)
  | quadTo (q p : Point α)
  | arcTo (wr hr : α) (start sweep : Int)
  | close

/-- A segment with the key of its place in the drawing order. -/
structure CustomEntry (α : Type) where
  order : Int
  segment : Segment α

/-- A path that a document spells out. Without an extent its space is the box itself. -/
structure CustomPath (α : Type) where
  extent : Option (Extent α)
  groups : List (List (CustomEntry α))

variable {α : Type}

namespace CustomPath

/-- The segments as they stand in the document. -/
def entries (p : CustomPath α) : List (CustomEntry α) := p.groups.flatten

/-- The segments in drawing order. Equal keys keep the order of the document. -/
def ordered (p : CustomPath α) : List (CustomEntry α) :=
  p.entries.mergeSort fun a b => a.order ≤ b.order

end CustomPath

variable [Scalar α]

/-- What the pen is told for a segment. -/
def Segment.instruction : Segment α → Instruction α
  | moveTo p => .moveTo p.x p.y
  | lineTo p => .lineTo p.x p.y
  | cubicTo c1 c2 p => .cubicTo c1.x c1.y c2.x c2.y p.x p.y
  | quadTo q p => .quadTo q.x q.y p.x p.y
  | arcTo wr hr start sweep =>
    .arcTo wr hr (Angle.ofUnits start).degrees (Angle.ofUnits sweep).degrees
  | close => .close

namespace CustomPath

/-- What the pen is told for the whole path. -/
def instructions (p : CustomPath α) : List (Instruction α) :=
  p.ordered.map fun e => e.segment.instruction

/-- The outline of one path in a box. -/
def outline (p : CustomPath α) (box : Extent α) : Path α :=
  let space := p.extent.getD ⟨0, 0⟩
  .drawnIn box.w box.h space.w space.h p.instructions

end CustomPath

/-- The outline of several paths in a box, one after the other. -/
def customOutline (paths : List (CustomPath α)) (box : Extent α) : Path α :=
  ⟨paths.flatMap fun p => (p.outline box).commands⟩

theorem customOutline_cons (p : CustomPath α) (ps : List (CustomPath α)) (box : Extent α) :
    customOutline (p :: ps) box = p.outline box ++ customOutline ps box :=
  congrArg Path.mk List.flatMap_cons

theorem customOutline_append (ps qs : List (CustomPath α)) (box : Extent α) :
    customOutline (ps ++ qs) box = customOutline ps box ++ customOutline qs box :=
  congrArg Path.mk List.flatMap_append

end ShapeOutline
