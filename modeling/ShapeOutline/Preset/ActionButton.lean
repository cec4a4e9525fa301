import ShapeOutline.Preset.Polygon

/-!
# Action buttons

A button is the box with a pictogram in its middle. Pictograms are laid out in a unit square that
takes three quarters of the short side.
-/

namespace ShapeOutline.Preset.ActionButton

variable {α : Type} [Scalar α]

/-- Where the unit square of a pictogram lies in the box. -/
structure Square (α : Type) where
  x0 : α
  y0 : α
  side : α

/-- The square in the middle of the frame. -/
def Square.centered (f : Frame α) : Square α :=
  let half := f.ss * 3 / 8
  ⟨f.hc - half, f.vc - half, half * 2⟩

/-- A part of a pictogram, in the coordinates of the unit square. -/
inductive Stroke (α : Type) where
  | moveTo (u v : α)
  | lineTo (u v : α)
  | arcTo (radius start sweep : α)
  | close
  | polygon (points : List (α × α))
  | bar (u1 v1 u2 v2 : α)
  | segment (u1 v1 u2 v2 : α)
  | circle (u v radius : α)

namespace Square

/-- A point of the unit square in the box. -/
def place (q : Square α) (p : α × α) : α × α := (q.x0 + p.1 * q.side, q.y0 + p.2 * q.side)

/-- The instructions of one part. -/
def instructions (q : Square α) : Stroke α → List (Instruction α)
  | .moveTo u v => let p := q.place (u, v); [.moveTo p.1 p.2]
  | .lineTo u v => let p := q.place (u, v); [.lineTo p.1 p.2]
  | .arcTo r start sweep => [.arcTo (r * q.side) (r * q.side) start sweep]
  | .close => [.close]
  | .polygon points => Instruction.polygon (points.map q.place)
  | .bar u1 v1 u2 v2 =>
    Instruction.polygon ([(u1, v1), (u2, v1), (u2, v2), (u1, v2)].map q.place)
  | .segment u1 v1 u2 v2 =>
    let p := q.place (u1, v1)
    let r := q.place (u2, v2)
    Instruction.segment p.1 p.2 r.1 r.2
  | .circle u v r =>
    let p := q.place (u, v)
    Instruction.ellipse p.1 p.2 (r * q.side) (r * q.side)

end Square

/-- The button with a pictogram. -/
def button (pictogram : List (Stroke α)) (f : Frame α) : Path α :=
  .drawn (.append (Polygon.rect f) :: pictogram.flatMap (Square.centered f).instructions)

/-- A house with a door. -/
def home : List (Stroke α) :=
  [.polygon [(0.5, 0), (0.6875, 0.1875), (0.6875, 0.0625), (0.8125, 0.0625), (0.8125, 0.3125),
      (1, 0.5), (0.875, 0.5), (0.875, 1), (0.125, 1), (0.125, 0.5), (0, 0.5)],
    .bar 0.4 0.65 0.6 1]

/-- A question mark: a band between two arcs, a stem and a dot. -/
def help : List (Stroke α) :=
  [.moveTo 0.2 0.3, .arcTo 0.3 180 270, .lineTo 0.5 0.45, .arcTo 0.15 90 (-270), .close,
    .bar 0.425 0.45 0.575 0.75, .circle 0.5 0.875 0.075]

/-- The letter i in a circle. -/
def information : List (Stroke α) :=
  [.circle 0.5 0.5 0.5, .circle 0.5 0.25 0.0833, .bar 0.4 0.4375 0.6 0.8125]

/-- A triangle to the right. -/
def forwardNext : List (Stroke α) := [.polygon [(0, 0), (1, 0.5), (0, 1)]]

/-- A triangle to the left. -/
def backPrevious : List (Stroke α) := [.polygon [(0, 0.5), (1, 0), (1, 1)]]

/-- A triangle to the right and a bar. -/
def ending : List (Stroke α) := [.polygon [(0, 0), (0.75, 0.5), (0, 1)], .bar 0.875 0 1 1]

/-- A bar and a triangle to the left. -/
def beginning : List (Stroke α) := [.bar 0 0 0.125 1, .polygon [(0.25, 0.5), (1, 0), (1, 1)]]

/-- An arrow that turns round and points upwards on the right. -/
def returning : List (Stroke α) :=
  [.moveTo 1 0.25, .lineTo 0.875 0.25, .lineTo 0.875 0.625, .arcTo 0.375 0 180,
    .lineTo 0.125 0.375, .lineTo 0.25 0.375, .lineTo 0.25 0.625, .arcTo 0.25 180 (-180),
    .lineTo 0.75 0.25, .lineTo 0.625 0.25, .lineTo 0.8125 0, .close]

/-- A page with a folded corner. -/
def document : List (Stroke α) :=
  [.polygon [(0.125, 0), (0.6875, 0), (0.875, 0.1875), (0.875, 1), (0.125, 1)],
    .polygon [(0.6875, 0), (0.6875, 0.1875), (0.875, 0.1875)]]

/-- A loudspeaker. -/
def sound : List (Stroke α) :=
  [.polygon [(0, 0.3125), (0.25, 0.3125), (0.5, 0), (0.5, 1), (0.25, 0.6875), (0, 0.6875)],
    .segment 0.625 0.5 1 0.5, .segment 0.625 0.3125 1 0.125, .segment 0.625 0.6875 1 0.875]

/-- A film camera. -/
def movie : List (Stroke α) :=
  [.bar 0 0.25 0.6875 0.75,
    .polygon [(0.6875, 0.4375), (1, 0.25), (1, 0.75), (0.6875, 0.5625)],
    .circle 0.1875 0.125 0.125, .circle 0.5 0.125 0.125]

end ShapeOutline.Preset.ActionButton
