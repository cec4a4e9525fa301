import ShapeOutline.Arc
import ShapeOutline.Color
import ShapeOutline.Decimal.Significant
import ShapeOutline.Measure

/-!
# Shadows

A shape may throw a shadow: its outline in one colour, blurred and moved some distance in a
direction. Lengths are stored in document units and the direction in 60000ths of a degree.
-/

namespace ShapeOutline

/-- A shadow as a document states it. -/
structure ShadowSpec (α : Type) where
  color : Color
  alpha : Option α
  blur : α
  distance : α
  direction : Int

/-- A shadow in device units. -/
structure Shadow (α : Type) where
  color : Color
  alpha : α
  blur : α
  offset : Point α
deriving BEq

variable {α : Type} [Scalar α]

/-- The shadow that a document states; a negative blur is none. -/
def ShadowSpec.resolve (s : ShadowSpec α) (scale : UnitScale α) (defaultAlpha : α) : Shadow α :=
  let sc := sinCos (Angle.ofUnits s.direction : Angle α).degrees
  { color := s.color
    alpha := Scalar.clamp (s.alpha.getD defaultAlpha) 0 1
    blur := scale.apply (Scalar.max s.blur 0)
    offset := Point.times ⟨sc.2, sc.1⟩ (scale.apply s.distance) }

/-- The text by which a shadow is defined. -/
def Shadow.chars (s : Shadow α) : List Char :=
  "shadow:".toList ++ Scalar.chars s.offset.x ++ ',' :: Scalar.chars s.offset.y ++
    ";blur:".toList ++ Scalar.chars s.blur ++ ";color:".toList ++ s.color.chars ++
    ";alpha:".toList ++ Scalar.chars s.alpha

end ShapeOutline
