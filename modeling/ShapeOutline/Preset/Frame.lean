import ShapeOutline.Guide.Set
import ShapeOutline.Pen

/-!
# Formulas of presets

A preset formula draws the outline of a shape kind in a box. It knows the box and the values of the
guides that its kind declares, and has the usual names for what it reads off the box: `ss` and `ls`
for the short and the long side, `hc` and `vc` for the centre, `wd2` and `hd2` for half the sides.
A guide that is not declared makes the formula fail.
-/

namespace ShapeOutline

/-- What a formula starts from: the box and the guides. -/
structure Frame (α : Type) where
  w : α
  h : α
  guides : GuideSet α

/-- A formula, and the guides it reads with their defaults in document units. -/
structure Preset (α : Type) where
  guides : List (String × Int)
  outline : Frame α → Guided (Path α)

/-- A formula that reads no guides. -/
def Preset.plain {α : Type} (draw : Frame α → Path α) : Preset α := ⟨[], fun f => .ok (draw f)⟩

namespace Frame

variable {α : Type} [Scalar α]

/-- The frame with the axes exchanged. -/
def transposed (f : Frame α) : Frame α := ⟨f.h, f.w, f.guides⟩

/-- The short side. -/
def ss (f : Frame α) : α := Scalar.min f.w f.h

/-- The long side. -/
def ls (f : Frame α) : α := Scalar.max f.w f.h

/-- The horizontal centre. -/
def hc (f : Frame α) : α := f.w / 2

/-- The vertical centre. -/
def vc (f : Frame α) : α := f.h / 2

/-- Half the width. -/
def wd2 (f : Frame α) : α := f.w / 2

/-- Half the height. -/
def hd2 (f : Frame α) : α := f.h / 2

/-- The value of a guide in document units. -/
def adj (f : Frame α) (name : String) : Guided α := f.guides.raw name

/-- The value of a guide that is an angle, in degrees. -/
def angle (f : Frame α) (name : String) : Guided α :=
  (f.adj name).map fun a => a / 60000

/-- A share of the short side. -/
def ofShort (f : Frame α) (a : α) : α := f.ss * a / 100000

/-- A share of the width. -/
def ofWidth (f : Frame α) (a : α) : α := f.w * a / 100000

/-- A share of the height. -/
def ofHeight (f : Frame α) (a : α) : α := f.h * a / 100000

/-- The share of the short side that a length is. -/
def maxAdj (f : Frame α) (length : α) : α := Scalar.quotient (100000 * length) f.ss

/-- The length that a guide asks for as a share of the short side, at least nothing and at most the
share `limit`. -/
def shortShare (f : Frame α) (name : String) (limit : α) : Guided α :=
  (f.adj name).map fun a => f.ofShort (Scalar.pin 0 a limit)

end Frame

namespace Path

/-- The closed polygon through some points of the box. -/
def polygon {α : Type} [Scalar α] (points : List (α × α)) : Path α :=
  drawn (Instruction.polygon points)

end Path

end ShapeOutline
