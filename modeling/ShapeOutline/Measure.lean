import ShapeOutline.Scalar

/-!
# Measures

What a document says in numbers about a whole shape: the extent of its box, the scale from document
units to device units, and angles. Extents and scales are checked where they enter.
-/

namespace ShapeOutline

/-- Why a number is refused. -/
inductive MeasureError where
  | notANumber
  | infinite
  | zero
  | negative
deriving DecidableEq, Repr

/-- What is said of a refused number. -/
def MeasureError.message : MeasureError → String
  | notANumber => "value is NaN"
  | infinite => "value is infinite"
  | zero => "value is zero"
  | negative => "value is negative"

/-- The extent of a box in device units; its origin is the shape's own top-left corner. -/
structure Extent (α : Type) where
  w : α
  h : α
deriving BEq

/-- The scale from document units to device units. -/
structure UnitScale (α : Type) where
  factor : α

/-- An angle in degrees, clockwise from three o'clock. -/
structure Angle (α : Type) where
  degrees : α

variable {α : Type} [Scalar α]

namespace MeasureError

/-- What is wrong with a number that has to be finite. -/
def ofNonFinite? (v : α) : Option MeasureError :=
  if Scalar.isNaN v then some notANumber
  else if Scalar.isFinite v then none
  else some infinite

end MeasureError

/-- A number that has to be finite. -/
def checkFinite (v : α) : Except MeasureError α :=
  match MeasureError.ofNonFinite? v with
  | some e => .error e
  | none => .ok v

namespace Extent

/-- A side of a box is finite and not negative. -/
def checkSide (v : α) : Except MeasureError Unit := do
  let v ← checkFinite v
  if v < 0 then throw .negative

/-- A box from numbers of a document, the width checked first. -/
def ofSides (w h : α) : Except MeasureError (Extent α) := do
  checkSide w
  checkSide h
  return ⟨w, h⟩

/-- The shorter side. -/
def shortSide (b : Extent α) : α := Scalar.min b.w b.h

/-- The longer side. -/
def longSide (b : Extent α) : α := Scalar.max b.w b.h

/-- Both sides multiplied. -/
def scaled (b : Extent α) (k : α) : Extent α := ⟨b.w * k, b.h * k⟩

/-- Whether the box has no interior. -/
def isDegenerate (b : Extent α) : Bool := b.w ≤ 0 || b.h ≤ 0

end Extent

namespace UnitScale

/-- A scale from a number of a document: finite and positive. -/
def ofFactor (v : α) : Except MeasureError (UnitScale α) := do
  let v ← checkFinite v
  if v == 0 then throw .zero
  else if v < 0 then throw .negative
  else return ⟨v⟩

/-- Document units are device units. -/
def one : UnitScale α := ⟨1⟩

/-- From English metric units to pixels, of which there are 96 in an inch. -/
def emuToPixels : UnitScale α := ⟨96 / 914400⟩

/-- A document value in device units. -/
def apply (s : UnitScale α) (raw : α) : α := raw * s.factor

/-- A value in device units, in document units. -/
def unapply (s : UnitScale α) (scaled : α) : α := scaled / s.factor

end UnitScale

namespace Angle

/-- Stored angles count 60000ths of a degree. -/
def ofUnits (units : Int) : Angle α := ⟨Scalar.ofInt units / 60000⟩

/-- The angle in radians. -/
def radians (a : Angle α) : α := Scalar.radians a.degrees

/-- The same direction within one turn. -/
def normalized (a : Angle α) : Angle α := ⟨Scalar.remEuclid a.degrees 360⟩

end Angle

/-- A stored share: 100000 is the whole. -/
def fraction (v : Int) : α := Scalar.ofInt v / 100000

end ShapeOutline
