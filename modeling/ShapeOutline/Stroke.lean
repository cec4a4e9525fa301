import ShapeOutline.Color
import ShapeOutline.Dash

/-!
# Strokes

The outline of a shape is drawn with a line. A document states its width in document units, its
colour, how it is dashed, how its ends and corners look and what decorates its ends; what it leaves
out is taken from defaults.

* `LineSpec`: what a document says of a line;
* `PaintDefaults`: the defaults;
* `Stroke`, `Stroke.ofSpec`: the line in device units.
-/

namespace ShapeOutline

/-- The form of the ends of a line. -/
inductive LineCap where
  | flat
  | round
  | square
deriving DecidableEq, Repr

/-- The cap with a name. -/
def LineCap.ofTag? : String → Option LineCap
  | "flat" => some .flat
  | "rnd" => some .round
  | "sq" => some .square
  | _ => none

/-- The form of the corners of a line. -/
inductive LineJoin where
  | round
  | bevel
  | miter
deriving DecidableEq, Repr

/-- The decoration of an end of a line. -/
inductive LineEndKind where
  | none
  | triangle
  | stealth
  | diamond
  | oval
  | arrow
deriving DecidableEq, Repr

/-- The decoration with a name. -/
def LineEndKind.ofTag? : String → Option LineEndKind
  | "none" => some .none
  | "triangle" => some .triangle
  | "stealth" => some .stealth
  | "diamond" => some .diamond
  | "oval" => some .oval
  | "arrow" => some .arrow
  | _ => Option.none

/-- The size of a decoration in one direction. -/
inductive LineEndSize where
  | small
  | medium
  | large
deriving DecidableEq, Repr

/-- The size with a name. -/
def LineEndSize.ofTag? : String → Option LineEndSize
  | "sm" => some .small
  | "med" => some .medium
  | "lg" => some .large
  | _ => none

/-- A decoration, with its size across the line and along it. -/
structure LineEnd where
  kind : LineEndKind
  width : LineEndSize
  length : LineEndSize
deriving DecidableEq, Repr

/-- A line as a document states it. The width is in document units; a line without a colour is not
drawn. The head is at the start of the path and the tail at its end. -/
structure LineSpec (α : Type) where
  width : Option α
  color : Option Color
  alpha : α
  dash : Option Dash
  cap : Option LineCap
  join : Option LineJoin
  head : Option LineEnd
  tail : Option LineEnd

/-- What stands in for what a document leaves out: the width of a line in document units, and the
opacity of a shadow. The sizes of decorations are multiples of the width of the line. -/
structure PaintDefaults (α : Type) where
  lineWidth : α
  small : α
  medium : α
  large : α
  shadowAlpha : α

variable {α : Type} [Scalar α]

namespace PaintDefaults

/-- A line is one point wide, and a shadow lets two thirds of the light through. -/
def standard : PaintDefaults α := ⟨12700, 2, 3, 5, 0.35⟩

/-- The multiple of the width of the line that a size is. -/
def factor (d : PaintDefaults α) : LineEndSize → α
  | .small => d.small
  | .medium => d.medium
  | .large => d.large

end PaintDefaults

/-- A line in device units. Without a colour it is not seen; without lengths of dashes it is
solid. -/
structure Stroke (α : Type) where
  color : Option Color
  alpha : α
  width : α
  dash : List α
  cap : LineCap
  join : LineJoin

namespace Stroke

/-- No line. -/
def none : Stroke α := ⟨.none, 0, 0, [], .flat, .round⟩

/-- Whether the line can be seen. -/
def isVisible (s : Stroke α) : Bool := s.color.isSome && 0 < s.width && 0 < s.alpha

/-- The width of a line in device units; a negative width is no width. -/
def widthOf (line : LineSpec α) (scale : UnitScale α) (defaults : PaintDefaults α) : α :=
  scale.apply (Scalar.max (line.width.getD defaults.lineWidth) 0)

/-- The line that a document states. -/
def ofLine (line : LineSpec α) (scale : UnitScale α) (defaults : PaintDefaults α) : Stroke α :=
  let width := widthOf line scale defaults
  { color := line.color
    alpha := Scalar.clamp line.alpha 0 1
    width
    dash := (line.dash.map fun d => d.lengths width).getD []
    cap := line.cap.getD .flat
    join := line.join.getD .round }

/-- The line of a shape, which may have none. -/
def ofSpec (line : Option (LineSpec α)) (scale : UnitScale α) (defaults : PaintDefaults α) :
    Stroke α :=
  match line with
  | some line => ofLine line scale defaults
  | .none => none

end Stroke

end ShapeOutline
