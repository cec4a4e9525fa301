import ShapeOutline.Measure
import ShapeOutline.Binary64.Shortest

/-!
# What is wrong with a shape

A shape is always compiled, whatever its numbers are; these are the faults that its validation
reports.
-/

namespace ShapeOutline

/-- A fault of the description of a shape. -/
inductive ShapeError (α : Type) where
  | invalidBounds (w h : α) (reason : MeasureError)
  | invalidScale (value : α) (reason : MeasureError)
  | invalidRotation (value : α) (reason : MeasureError)
  | unknownKind (tag : String)

namespace ShapeError

/-- The diagnostic code. -/
def code {α : Type} : ShapeError α → String
  | invalidBounds .. => "drawml_geom::build::invalid_bounds"
  | invalidScale .. => "drawml_geom::build::invalid_scale"
  | invalidRotation .. => "drawml_geom::build::invalid_rotation"
  | unknownKind _ => "drawml_geom::build::unknown_kind"

/-- Advice, where there is some. -/
def help? {α : Type} : ShapeError α → Option String
  | invalidScale .. =>
    some "the scale factor converts EMU to device units and must be positive"
  | unknownKind _ =>
    some "preset tags are DrawingML ST_ShapeType values such as `rect` or `roundRect`"
  | _ => none

/-- What went wrong, in words. -/
def message : ShapeError Float → String
  | invalidBounds w h reason =>
    "invalid bounding box " ++ Binary64.shortestText w ++ "x" ++ Binary64.shortestText h ++ ": " ++
      reason.message
  | invalidScale value reason =>
    "invalid scale factor " ++ Binary64.shortestText value ++ ": " ++ reason.message
  | invalidRotation value reason =>
    "invalid rotation " ++ Binary64.shortestText value ++ ": " ++ reason.message
  | unknownKind tag => "unknown preset shape kind `" ++ tag ++ "`"

end ShapeError

end ShapeOutline
