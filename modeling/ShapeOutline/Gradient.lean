import ShapeOutline.Arc
import ShapeOutline.Color
import ShapeOutline.Decimal.Significant
import ShapeOutline.Measure

/-!
# Gradients

A gradient runs through coloured stops, along a line across the box or outwards from the middle of
a focus rectangle. Its geometry is given in fractions of the box.

* `GradientSpec`: what a document says of a gradient;
* `GradientSpec.resolve`: its stops in order and its geometry in a box;
* `Gradient.chars`: the text by which it is defined.
-/

namespace ShapeOutline

/-- A stop as a document states it. A stop without a position takes its place by its number. -/
structure StopSpec (α : Type) where
  position : Option Int
  color : Color
  alpha : α

/-- The insets of the focus rectangle from the sides of the box, as stored shares. -/
structure FocusRect where
  left : Int
  top : Int
  right : Int
  bottom : Int
deriving DecidableEq, Repr

/-- How a gradient runs: in a direction, counted in 60000ths of a degree, or outwards. -/
inductive Shade where
  | linear (angle : Int)
  | radial (focus : FocusRect)
deriving DecidableEq, Repr

/-- A gradient as a document states it. -/
structure GradientSpec (α : Type) where
  stops : List (StopSpec α)
  shade : Shade

/-- A colour at an offset between zero and one. -/
structure GradientStop (α : Type) where
  offset : α
  color : Color
  alpha : α
deriving BEq

/-- Where a gradient begins and ends: a vector across the box, with its angle, or a circle. -/
inductive GradientGeometry (α : Type) where
  | linear (angle : α) (start stop : Point α)
  | radial (center : Point α) (radius : α)
deriving BEq

/-- A gradient in a box. -/
structure Gradient (α : Type) where
  stops : List (GradientStop α)
  geometry : GradientGeometry α
deriving BEq

variable {α : Type} [Scalar α]

/-- A number moved between zero and one. -/
def unitShare (v : α) : α := Scalar.clamp v 0 1

namespace StopSpec

/-- The offset of the stop with number `i` of `n`. Stops without a position are spread evenly. -/
def offset (n i : Nat) (s : StopSpec α) : α :=
  match s.position with
  | some p => unitShare (fraction p)
  | none => if 1 < n then Scalar.ofNat i / Scalar.ofNat (n - 1) else 0

/-- The stop with number `i` of `n`. -/
def resolve (n i : Nat) (s : StopSpec α) : GradientStop α :=
  ⟨s.offset n i, s.color, unitShare s.alpha⟩

end StopSpec

namespace GradientGeometry

/-- The vector across a box in a stored direction. The angle is turned by a quarter, so that zero
points up and a quarter turn to the right, and the vector is made long enough that the box lies
between its ends. -/
def ofDirection (angle : Int) (box : Extent α) : GradientGeometry α :=
  let degrees := (Angle.ofUnits angle).degrees + 90
  let sc := sinCos degrees
  let dir : Point α := ⟨sc.1, -sc.2⟩
  let half := (box.w * Scalar.abs dir.x + box.h * Scalar.abs dir.y) / 2
  let dx := Scalar.quotient (dir.x * half) box.w
  let dy := Scalar.quotient (dir.y * half) box.h
  .linear degrees ⟨0.5 - dx, 0.5 - dy⟩ ⟨0.5 + dx, 0.5 + dy⟩

/-- The corners of the box in fractions of it. -/
def corners : List (Point α) := [⟨0, 0⟩, ⟨1, 0⟩, ⟨0, 1⟩, ⟨1, 1⟩]

/-- The circle around the middle of the focus rectangle that reaches the farthest corner. -/
def ofFocus (focus : FocusRect) : GradientGeometry α :=
  let center : Point α :=
    ⟨(fraction focus.left + 1 - fraction focus.right) / 2,
      (fraction focus.top + 1 - fraction focus.bottom) / 2⟩
  .radial center ((corners.map fun c => (c - center).norm).foldl Scalar.max 0)

/-- The geometry of a shade in a box. -/
def ofShade (shade : Shade) (box : Extent α) : GradientGeometry α :=
  match shade with
  | .linear angle => ofDirection angle box
  | .radial focus => ofFocus focus

end GradientGeometry

namespace GradientSpec

/-- The stops as they stand in the document, each at its offset. -/
def placedStops (g : GradientSpec α) : List (GradientStop α) :=
  g.stops.zipIdx.map fun (s, i) => s.resolve g.stops.length i

/-- The gradient in a box. Stops ascend by offset; those with equal offsets keep the order of the
document. -/
def resolve (g : GradientSpec α) (box : Extent α) : Gradient α :=
  ⟨g.placedStops.mergeSort fun a b => a.offset ≤ b.offset, .ofShade g.shade box⟩

end GradientSpec

/-- Numbers with commas between them. -/
def numberChars (numbers : List α) : List Char :=
  [','].intercalate (numbers.map Scalar.chars)

/-- The text of a stop. -/
def GradientStop.chars (s : GradientStop α) : List Char :=
  ";stop:".toList ++ Scalar.chars s.offset ++ ' ' :: s.color.chars ++ ' ' :: Scalar.chars s.alpha

/-- The text of a geometry. -/
def GradientGeometry.chars : GradientGeometry α → List Char
  | linear _ start stop =>
    "linear:".toList ++ numberChars [start.x, start.y, stop.x, stop.y]
  | radial center radius => "radial:".toList ++ numberChars [center.x, center.y, radius]

/-- The text by which a gradient is defined. -/
def Gradient.chars (g : Gradient α) : List Char :=
  g.geometry.chars ++ g.stops.flatMap GradientStop.chars

end ShapeOutline
