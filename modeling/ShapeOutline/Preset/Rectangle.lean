import ShapeOutline.Preset.Frame

/-!
# Rectangles with shaped corners

Each corner of a rectangle is square, rounded by a quarter circle, or cut straight. The outline goes
round clockwise from the top-left corner, and each corner says how it turns.
-/

namespace ShapeOutline.Preset.Rectangle

variable {α : Type}

/-- How a corner turns: at once, along a quarter circle of a radius, or along a cut with legs of a
length. -/
inductive Corner (α : Type) where
  | square
  | round (radius : α)
  | snip (leg : α)

/-- The corners of a rectangle, clockwise. -/
structure Corners (α : Type) where
  topLeft : Corner α
  topRight : Corner α
  bottomRight : Corner α
  bottomLeft : Corner α

/-- The same turn at all corners. -/
def Corners.all (c : Corner α) : Corners α := ⟨c, c, c, c⟩

variable [Scalar α]

/-- How much of a side the corner takes. -/
def Corner.size : Corner α → α
  | square => 0
  | round d => Scalar.max d 0
  | snip d => Scalar.max d 0

/-- The turn itself, from the pen to `(x, y)`. A rounded corner is seen from the centre of its
circle in direction `start` when it begins. -/
def Corner.turn (c : Corner α) (start x y : α) : List (Instruction α) :=
  match c with
  | square => []
  | round d => if 0 < d then [.arcTo d d start 90] else []
  | snip d => if 0 < d then [.lineTo x y] else []

/-- The outline of a rectangle with given corners. -/
def cornered (w h : α) (c : Corners α) : Path α :=
  .drawn <|
    .moveTo 0 c.topLeft.size :: c.topLeft.turn 180 c.topLeft.size 0 ++
      .lineTo (w - c.topRight.size) 0 :: c.topRight.turn 270 w c.topRight.size ++
      .lineTo w (h - c.bottomRight.size) :: c.bottomRight.turn 0 (w - c.bottomRight.size) h ++
      .lineTo c.bottomLeft.size h :: c.bottomLeft.turn 90 0 (h - c.bottomLeft.size) ++ [.close]

/-- All corners rounded. -/
def roundAll (f : Frame α) : Guided (Path α) := do
  let r ← f.shortShare "adj" 50000
  return cornered f.w f.h (.all (.round r))

/-- The top-right corner rounded. -/
def roundOne (f : Frame α) : Guided (Path α) := do
  let r ← f.shortShare "adj" 50000
  return cornered f.w f.h ⟨.square, .round r, .square, .square⟩

/-- The top corners rounded alike, and the bottom ones. -/
def roundSameSide (f : Frame α) : Guided (Path α) := do
  let top ← f.shortShare "adj1" 50000
  let bottom ← f.shortShare "adj2" 50000
  return cornered f.w f.h ⟨.round top, .round top, .round bottom, .round bottom⟩

/-- Opposite corners rounded alike. -/
def roundDiagonal (f : Frame α) : Guided (Path α) := do
  let main ← f.shortShare "adj1" 50000
  let other ← f.shortShare "adj2" 50000
  return cornered f.w f.h ⟨.round main, .round other, .round main, .round other⟩

/-- One top corner rounded, the other cut. -/
def snipAndRound (f : Frame α) : Guided (Path α) := do
  let round ← f.shortShare "adj1" 50000
  let snip ← f.shortShare "adj2" 50000
  return cornered f.w f.h ⟨.round round, .snip snip, .square, .square⟩

/-- The top-right corner cut. -/
def snipOne (f : Frame α) : Guided (Path α) := do
  let d ← f.shortShare "adj" 50000
  return cornered f.w f.h ⟨.square, .snip d, .square, .square⟩

/-- The top corners cut alike, and the bottom ones. -/
def snipSameSide (f : Frame α) : Guided (Path α) := do
  let top ← f.shortShare "adj1" 50000
  let bottom ← f.shortShare "adj2" 50000
  return cornered f.w f.h ⟨.snip top, .snip top, .snip bottom, .snip bottom⟩

/-- Opposite corners cut alike. -/
def snipDiagonal (f : Frame α) : Guided (Path α) := do
  let main ← f.shortShare "adj1" 50000
  let other ← f.shortShare "adj2" 50000
  return cornered f.w f.h ⟨.snip main, .snip other, .snip main, .snip other⟩

/-- All corners rounded inwards. -/
def plaque (f : Frame α) : Guided (Path α) := do
  let x1 ← f.shortShare "adj" 50000
  let x2 := f.w - x1
  let y2 := f.h - x1
  return .drawn
    [.moveTo 0 x1, .arcTo x1 x1 90 (-90), .lineTo x2 0, .arcTo x1 x1 180 (-90), .lineTo f.w y2,
      .arcTo x1 x1 270 (-90), .lineTo x1 f.h, .arcTo x1 x1 0 (-90), .close]

end ShapeOutline.Preset.Rectangle
