import ShapeOutline.Scalar

/-!
# Points

A point of the plane, or a displacement between two of them. The origin is the top-left corner of a
shape's box and `y` points down.
-/

namespace ShapeOutline

/-- A point, or a displacement. -/
structure Point (α : Type) where
  x : α
  y : α
deriving BEq

namespace Point

variable {α : Type} [Scalar α]

instance : Add (Point α) := ⟨fun p q => ⟨p.x + q.x, p.y + q.y⟩⟩

instance : Sub (Point α) := ⟨fun p q => ⟨p.x - q.x, p.y - q.y⟩⟩

instance : Neg (Point α) := ⟨fun p => ⟨-p.x, -p.y⟩⟩

/-- The top-left corner of the box. -/
def origin : Point α := ⟨0, 0⟩

/-- `p`, `k` times as far from the origin. -/
def times (p : Point α) (k : α) : Point α := ⟨p.x * k, p.y * k⟩

/-- `p` with each coordinate multiplied by that of `s`. -/
def stretch (p s : Point α) : Point α := ⟨p.x * s.x, p.y * s.y⟩

/-- The image of `p` under the axis-aligned map `p * s + t`. -/
def map (p s t : Point α) : Point α := p.stretch s + t

/-- `p` with its coordinates exchanged. -/
def transpose (p : Point α) : Point α := ⟨p.y, p.x⟩

/-- The square of the distance from the origin. -/
def normSquared (p : Point α) : α := p.x * p.x + p.y * p.y

/-- The distance from the origin. -/
def norm (p : Point α) : α := Scalar.sqrt p.normSquared

/-- The displacement of length one in the direction of `p`, if `p` is long enough to have one. -/
def unit? (p : Point α) : Option (Point α) :=
  let reciprocal := 1 / p.norm
  if Scalar.isFinite reciprocal ∧ 0 < reciprocal then some (p.times reciprocal) else none

/-- Whether both coordinates are finite. -/
def isFinite (p : Point α) : Bool := Scalar.isFinite p.x && Scalar.isFinite p.y

end Point

end ShapeOutline
