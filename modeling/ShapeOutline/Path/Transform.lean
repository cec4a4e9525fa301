import ShapeOutline.Path

/-!
# Maps of paths

An axis-aligned map stretches, flips and shifts a path; a transposition exchanges the axes. An arc
stays an arc: its angles are reflected with it, and so is its travel.
-/

namespace ShapeOutline

variable {α : Type} [Scalar α]

namespace Arc

/-- The angle of a point after the map with the given scale, from the angle before it. -/
def reflectAngle (scale : Point α) (deg : α) : α :=
  let turned := if scale.x < 0 then 180 - deg else deg
  if scale.y < 0 then -turned else turned

/-- The image of an arc under `p * scale + offset`. -/
def mapped (scale offset : Point α) (a : Arc α) : Arc α where
  center := a.center.map scale offset
  rx := a.rx * Scalar.abs scale.x
  ry := a.ry * Scalar.abs scale.y
  start := reflectAngle scale a.start
  stop := reflectAngle scale a.stop

/-- The arc with the axes exchanged. -/
def transposed (a : Arc α) : Arc α where
  center := a.center.transpose
  rx := a.ry
  ry := a.rx
  start := 90 - a.start
  stop := 90 - a.stop

end Arc

namespace Command

/-- The image of a command under `p * scale + offset`. -/
def mapped (scale offset : Point α) : Command α → Command α
  | moveTo p => moveTo (p.map scale offset)
  | lineTo p => lineTo (p.map scale offset)
  | cubicTo c1 c2 p => cubicTo (c1.map scale offset) (c2.map scale offset) (p.map scale offset)
  | arcTo a => arcTo (a.mapped scale offset)
  | close => close

/-- The command with the axes exchanged. -/
def transposed : Command α → Command α
  | moveTo p => moveTo p.transpose
  | lineTo p => lineTo p.transpose
  | cubicTo c1 c2 p => cubicTo c1.transpose c2.transpose p.transpose
  | arcTo a => arcTo a.transposed
  | close => close

end Command

namespace Path

/-- The image of a path under `p * scale + offset`. -/
def mapped (scale offset : Point α) (p : Path α) : Path α :=
  ⟨p.commands.map (Command.mapped scale offset)⟩

/-- The path with `(x, y)` at `(y, x)`. -/
def transposed (p : Path α) : Path α := ⟨p.commands.map Command.transposed⟩

/-- The path stretched per axis. -/
def scaled (sx sy : α) (p : Path α) : Path α := p.mapped ⟨sx, sy⟩ Point.origin

/-- The path flipped inside a box, from left to right and from top to bottom as asked. -/
def flipped (w h : α) (horizontally vertically : Bool) (p : Path α) : Path α :=
  if !horizontally && !vertically then p
  else
    p.mapped ⟨if horizontally then -1 else 1, if vertically then -1 else 1⟩
      ⟨if horizontally then w else 0, if vertically then h else 0⟩

end Path

end ShapeOutline
