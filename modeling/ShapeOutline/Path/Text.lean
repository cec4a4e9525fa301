import ShapeOutline.Path
import ShapeOutline.Decimal.Significant

/-!
# The text of a path

A path is written as the data of an SVG path element: a letter and coordinates per command,
separated by blanks. An elliptical arc is written relative to the pen, by its radii, two flags and
its end point; one that comes round to its beginning is written as two halves, and one that goes
nowhere is not written.

* `Arc.pieces`, `Command.chars`: what is written of a command;
* `Command.write`: the text with one more command;
* `Path.text`: the text of all commands.
-/

namespace ShapeOutline

open Scalar (tolerance)

variable {α : Type} [Scalar α]

/-- A written piece of an arc: its signed sweep, and the angle at which it ends. -/
structure ArcPiece (α : Type) where
  sweep : α
  stop : α

namespace ArcPiece

/-- Whether the piece takes the longer of the two ways round. Half turns count as short. -/
def isLarge (s : ArcPiece α) : Bool := 180 + tolerance < Scalar.abs s.sweep

/-- Whether the piece runs clockwise. -/
def isClockwise (s : ArcPiece α) : Bool := 0 < s.sweep

end ArcPiece

/-- The pieces in which an arc is written: none for no sweep, two halves for a full turn. -/
def Arc.pieces (a : Arc α) : List (ArcPiece α) :=
  let sweep := a.stop - a.start
  if Scalar.abs sweep < tolerance then []
  else if 360 - tolerance ≤ Scalar.abs sweep then
    [⟨sweep / 2, a.start + sweep / 2⟩, ⟨sweep / 2, a.stop⟩]
  else [⟨sweep, a.stop⟩]

/-- A point is written as its two coordinates with a comma between them. -/
def Point.chars (p : Point α) : List Char := Scalar.chars p.x ++ ',' :: Scalar.chars p.y

/-- A flag is one digit. -/
def flagChar (flag : Bool) : Char := if flag then '1' else '0'

/-- The text of one piece of an arc. -/
def Arc.pieceChars (a : Arc α) (s : ArcPiece α) : List Char :=
  'A' :: Point.chars ⟨a.rx, a.ry⟩ ++
    [' ', '0', ' ', flagChar s.isLarge, ' ', flagChar s.isClockwise, ' '] ++
    (a.pointAt s.stop).chars

/-- Texts with single blanks between them. -/
def joinChars (texts : List (List Char)) : List Char := [' '].intercalate texts

/-- The text of one command. -/
def Command.chars : Command α → List Char
  | moveTo p => 'M' :: p.chars
  | lineTo p => 'L' :: p.chars
  | cubicTo c1 c2 p => 'C' :: joinChars [c1.chars, c2.chars, p.chars]
  | arcTo a => joinChars (a.pieces.map a.pieceChars)
  | close => ['Z']

/-- A text with that of one more command behind it. A blank is put between the two, and a single
character that was added is cut off again, since a command that wrote nothing adds the blank alone. -/
def Command.write (out : List Char) (c : Command α) : List Char :=
  let separated := if out.isEmpty then out else out ++ [' ']
  let written := separated ++ c.chars
  if written.length = out.length + 1 then out else written

/-- The characters of the text of a path. -/
def Path.chars (p : Path α) : List Char := p.commands.foldl Command.write []

/-- The text of a path. -/
def Path.text (p : Path α) : String := String.ofList p.chars

end ShapeOutline
