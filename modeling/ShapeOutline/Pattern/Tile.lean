import ShapeOutline.Pattern
import ShapeOutline.Color
import ShapeOutline.Pen
import ShapeOutline.Path.Text

/-!
# Pattern tiles

A tile is a square of the background colour with marks of the foreground colour: a rectangle for
every run of set cells in a row of the pattern.
-/

namespace ShapeOutline

/-- A pattern with its two colours. -/
structure PatternTile where
  pattern : Pattern
  foreground : Color
  background : Color
deriving DecidableEq, Repr

namespace Pattern

/-- The runs of set cells in a row, each with the column where it begins and the column behind it,
when the row begins at column `x`. -/
def runs (x : Nat) : List Bool → List (Nat × Nat)
  | [] => []
  | false :: rest => runs (x + 1) rest
  | true :: rest =>
    match runs (x + 1) rest with
    | [] => [(x, x + 1)]
    | (start, stop) :: more =>
      if start = x + 1 then (x, stop) :: more else (x, x + 1) :: (start, stop) :: more

/-- The cells of a row's run. -/
structure Run where
  row : Nat
  start : Nat
  stop : Nat
deriving DecidableEq, Repr

/-- The runs of a pattern, from the top row down. -/
def allRuns (p : Pattern) : List Run :=
  p.rows.zipIdx.flatMap fun (bits, row) => (runs 0 (cells bits)).map fun r => ⟨row, r.1, r.2⟩

end Pattern

namespace PatternTile

variable {α : Type} [Scalar α]

/-- The cells in a row or a column of a tile. -/
def cellsPerSide : Nat := 8

/-- The side of a tile. -/
def side : α := 8

/-- The rectangle that a run covers. -/
def mark (r : Pattern.Run) : List (Instruction α) :=
  let cell : α := side / Scalar.ofNat cellsPerSide
  let x0 := Scalar.ofNat r.start * cell
  let x1 := Scalar.ofNat r.stop * cell
  let y0 := Scalar.ofNat r.row * cell
  let y1 := Scalar.ofNat (r.row + 1) * cell
  Instruction.polygon [(x0, y0), (x1, y0), (x1, y1), (x0, y1)]

/-- The marks of a tile. -/
def marks (t : PatternTile) : Path α := .drawn (t.pattern.allRuns.flatMap mark)

/-- The text by which a tile is defined. -/
def chars (α : Type) [Scalar α] (t : PatternTile) : List Char :=
  "pattern:".toList ++ t.pattern.tag.toList ++ ";fg:".toList ++ t.foreground.chars ++
    ";bg:".toList ++ t.background.chars ++ ";size:".toList ++ Scalar.chars (side : α) ++
    ";d:".toList ++ (t.marks : Path α).chars

end PatternTile

end ShapeOutline
