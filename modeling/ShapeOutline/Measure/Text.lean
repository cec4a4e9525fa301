import ShapeOutline.Measure
import ShapeOutline.Binary64
import ShapeOutline.Binary64.Shortest

/-!
# The text of measures

Boxes and angles are shown with the fewest digits that identify their numbers.
-/

namespace ShapeOutline

/-- A box is shown as its sides with a cross between them. -/
def Extent.text (b : Extent Float) : String :=
  Binary64.shortestText b.w ++ "x" ++ Binary64.shortestText b.h

/-- An angle is shown with its unit. -/
def Angle.text (a : Angle Float) : String := Binary64.shortestText a.degrees ++ "deg"

end ShapeOutline
