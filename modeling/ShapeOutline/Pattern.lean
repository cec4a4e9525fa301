/-!
# Patterns

A pattern paints a tile of eight by eight cells with two colours, again and again. Each of the named
patterns says by a bit which cells have the foreground colour.

* `Pattern`, `Pattern.tag`, `Pattern.ofTag?`: the patterns and their names in documents;
* `Pattern.rows`: the bits of a pattern, a byte to a row, the highest bit on the left;
* `Pattern.coverage`: how many cells have the foreground colour.
-/

namespace ShapeOutline

/-- The named patterns. -/
inductive Pattern where
  | pct5
  | pct10
  | pct20
  | pct25
  | pct30
  | pct40
  | pct50
  | pct60
  | pct70
  | pct75
  | pct80
  | pct90
  | horz
  | vert
  | ltHorz
  | ltVert
  | dkHorz
  | dkVert
  | narHorz
  | narVert
  | dashHorz
  | dashVert
  | cross
  | dnDiag
  | upDiag
  | ltDnDiag
  | ltUpDiag
  | dkDnDiag
  | dkUpDiag
  | wdDnDiag
  | wdUpDiag
  | dashDnDiag
  | dashUpDiag
  | diagCross
  | smCheck
  | lgCheck
  | smGrid
  | lgGrid
  | dotGrid
  | smConfetti
  | lgConfetti
  | horzBrick
  | diagBrick
  | solidDmnd
  | openDmnd
  | dotDmnd
  | plaid
  | sphere
  | weave
  | divot
  | shingle
  | wave
  | trellis
  | zigZag
deriving DecidableEq, Repr

namespace Pattern

/-- All patterns in their order of declaration. -/
def all : List Pattern :=
  [pct5, pct10, pct20, pct25, pct30, pct40, pct50, pct60, pct70, pct75, pct80, pct90, horz, vert,
    ltHorz, ltVert, dkHorz, dkVert, narHorz, narVert, dashHorz, dashVert, cross, dnDiag, upDiag,
    ltDnDiag, ltUpDiag, dkDnDiag, dkUpDiag, wdDnDiag, wdUpDiag, dashDnDiag, dashUpDiag, diagCross,
    smCheck, lgCheck, smGrid, lgGrid, dotGrid, smConfetti, lgConfetti, horzBrick, diagBrick,
    solidDmnd, openDmnd, dotDmnd, plaid, sphere, weave, divot, shingle, wave, trellis, zigZag]

/-- The name of a pattern in documents. -/
def tag : Pattern → String
  | pct5 => "pct5"
  | pct10 => "pct10"
  | pct20 => "pct20"
  | pct25 => "pct25"
  | pct30 => "pct30"
  | pct40 => "pct40"
  | pct50 => "pct50"
  | pct60 => "pct60"
  | pct70 => "pct70"
  | pct75 => "pct75"
  | pct80 => "pct80"
  | pct90 => "pct90"
  | horz => "horz"
  | vert => "vert"
  | ltHorz => "ltHorz"
  | ltVert => "ltVert"
  | dkHorz => "dkHorz"
  | dkVert => "dkVert"
  | narHorz => "narHorz"
  | narVert => "narVert"
  | dashHorz => "dashHorz"
  | dashVert => "dashVert"
  | cross => "cross"
  | dnDiag => "dnDiag"
  | upDiag => "upDiag"
  | ltDnDiag => "ltDnDiag"
  | ltUpDiag => "ltUpDiag"
  | dkDnDiag => "dkDnDiag"
  | dkUpDiag => "dkUpDiag"
  | wdDnDiag => "wdDnDiag"
  | wdUpDiag => "wdUpDiag"
  | dashDnDiag => "dashDnDiag"
  | dashUpDiag => "dashUpDiag"
  | diagCross => "diagCross"
  | smCheck => "smCheck"
  | lgCheck => "lgCheck"
  | smGrid => "smGrid"
  | lgGrid => "lgGrid"
  | dotGrid => "dotGrid"
  | smConfetti => "smConfetti"
  | lgConfetti => "lgConfetti"
  | horzBrick => "horzBrick"
  | diagBrick => "diagBrick"
  | solidDmnd => "solidDmnd"
  | openDmnd => "openDmnd"
  | dotDmnd => "dotDmnd"
  | plaid => "plaid"
  | sphere => "sphere"
  | weave => "weave"
  | divot => "divot"
  | shingle => "shingle"
  | wave => "wave"
  | trellis => "trellis"
  | zigZag => "zigZag"

/-- The pattern with a name. -/
def ofTag? (text : String) : Option Pattern := all.find? fun p => p.tag == text

/-- The pattern with a name; a half-tone stands in for names that are not known. -/
def ofTag (text : String) : Pattern := (ofTag? text).getD pct50

/-- The cells with the foreground colour, from the top row down. -/
def rows : Pattern → List UInt8
  | pct5 => [0x80, 0x00, 0x00, 0x00, 0x08, 0x00, 0x00, 0x00]
  | pct10 => [0x80, 0x00, 0x08, 0x00, 0x80, 0x00, 0x08, 0x00]
  | pct20 => [0x88, 0x00, 0x22, 0x00, 0x88, 0x00, 0x22, 0x00]
  | pct25 => [0x88, 0x22, 0x88, 0x22, 0x88, 0x22, 0x88, 0x22]
  | pct30 => [0xAA, 0x44, 0xAA, 0x11, 0xAA, 0x44, 0xAA, 0x11]
  | pct40 => [0xAA, 0x55, 0xAA, 0x54, 0xAA, 0x55, 0xAA, 0x45]
  | pct50 => [0xAA, 0x55, 0xAA, 0x55, 0xAA, 0x55, 0xAA, 0x55]
  | pct60 => [0xEE, 0x55, 0xBB, 0x55, 0xEE, 0x55, 0xBB, 0x55]
  | pct70 => [0xEE, 0x77, 0xBB, 0xDD, 0xEE, 0x77, 0xBB, 0xDD]
  | pct75 => [0xEE, 0xBB, 0xEE, 0xBB, 0xEE, 0xBB, 0xEE, 0xBB]
  | pct80 => [0xF7, 0xFF, 0x7F, 0xFF, 0xF7, 0xFF, 0x7F, 0xFF]
  | pct90 => [0xFF, 0xF7, 0xFF, 0xFF, 0xFF, 0x7F, 0xFF, 0xFF]
  | horz => [0xFF, 0x00, 0x00, 0x00, 0x00, 0x00, 0x00, 0x00]
  | vert => [0x80, 0x80, 0x80, 0x80, 0x80, 0x80, 0x80, 0x80]
  | ltHorz => [0xFF, 0x00, 0x00, 0x00, 0xFF, 0x00, 0x00, 0x00]
  | ltVert => [0x88, 0x88, 0x88, 0x88, 0x88, 0x88, 0x88, 0x88]
  | dkHorz => [0xFF, 0xFF, 0x00, 0x00, 0xFF, 0xFF, 0x00, 0x00]
  | dkVert => [0xCC, 0xCC, 0xCC, 0xCC, 0xCC, 0xCC, 0xCC, 0xCC]
  | narHorz => [0xFF, 0x00, 0xFF, 0x00, 0xFF, 0x00, 0xFF, 0x00]
  | narVert => [0xAA, 0xAA, 0xAA, 0xAA, 0xAA, 0xAA, 0xAA, 0xAA]
  | dashHorz => [0xF0, 0x00, 0x00, 0x00, 0x0F, 0x00, 0x00, 0x00]
  | dashVert => [0x80, 0x80, 0x80, 0x80, 0x08, 0x08, 0x08, 0x08]
  | cross => [0xFF, 0x80, 0x80, 0x80, 0x80, 0x80, 0x80, 0x80]
  | dnDiag => [0x88, 0x44, 0x22, 0x11, 0x88, 0x44, 0x22, 0x11]
  | upDiag => [0x11, 0x22, 0x44, 0x88, 0x11, 0x22, 0x44, 0x88]
  | ltDnDiag => [0x80, 0x40, 0x20, 0x10, 0x08, 0x04, 0x02, 0x01]
  | ltUpDiag => [0x01, 0x02, 0x04, 0x08, 0x10, 0x20, 0x40, 0x80]
  | dkDnDiag => [0xCC, 0x66, 0x33, 0x99, 0xCC, 0x66, 0x33, 0x99]
  | dkUpDiag => [0x33, 0x66, 0xCC, 0x99, 0x33, 0x66, 0xCC, 0x99]
  | wdDnDiag => [0xC1, 0xE0, 0x70, 0x38, 0x1C, 0x0E, 0x07, 0x83]
  | wdUpDiag => [0x83, 0x07, 0x0E, 0x1C, 0x38, 0x70, 0xE0, 0xC1]
  | dashDnDiag => [0x88, 0x44, 0x22, 0x11, 0x00, 0x00, 0x00, 0x00]
  | dashUpDiag => [0x11, 0x22, 0x44, 0x88, 0x00, 0x00, 0x00, 0x00]
  | diagCross => [0x81, 0x42, 0x24, 0x18, 0x18, 0x24, 0x42, 0x81]
  | smCheck => [0xCC, 0xCC, 0x33, 0x33, 0xCC, 0xCC, 0x33, 0x33]
  | lgCheck => [0xF0, 0xF0, 0xF0, 0xF0, 0x0F, 0x0F, 0x0F, 0x0F]
  | smGrid => [0xFF, 0x88, 0x88, 0x88, 0xFF, 0x88, 0x88, 0x88]
  | lgGrid => [0xFF, 0x80, 0x80, 0x80, 0x80, 0x80, 0x80, 0x80]
  | dotGrid => [0xAA, 0x00, 0x80, 0x00, 0x80, 0x00, 0x80, 0x00]
  | smConfetti => [0x80, 0x04, 0x40, 0x02, 0x10, 0x01, 0x20, 0x08]
  | lgConfetti => [0xC0, 0xCC, 0x0C, 0x30, 0x33, 0x03, 0x60, 0x06]
  | horzBrick => [0xFF, 0x80, 0x80, 0x80, 0xFF, 0x08, 0x08, 0x08]
  | diagBrick => [0x80, 0x40, 0x20, 0x10, 0x18, 0x24, 0x42, 0x81]
  | solidDmnd => [0x10, 0x38, 0x7C, 0xFE, 0x7C, 0x38, 0x10, 0x00]
  | openDmnd => [0x80, 0x41, 0x22, 0x14, 0x08, 0x14, 0x22, 0x41]
  | dotDmnd => [0x80, 0x00, 0x22, 0x00, 0x08, 0x00, 0x22, 0x00]
  | plaid => [0xAA, 0x55, 0xAA, 0x55, 0xF0, 0xF0, 0xF0, 0xF0]
  | sphere => [0x3C, 0x42, 0x81, 0x81, 0x81, 0x81, 0x42, 0x3C]
  | weave => [0x88, 0x54, 0x22, 0x45, 0x88, 0x14, 0x22, 0x51]
  | divot => [0x00, 0x10, 0x08, 0x10, 0x00, 0x01, 0x80, 0x01]
  | shingle => [0x03, 0x84, 0x48, 0x30, 0x0C, 0x02, 0x01, 0x01]
  | wave => [0x00, 0x18, 0xA4, 0x03, 0x00, 0x18, 0xA4, 0x03]
  | trellis => [0xFF, 0x66, 0xFF, 0x99, 0xFF, 0x66, 0xFF, 0x99]
  | zigZag => [0x81, 0x42, 0x24, 0x18, 0x81, 0x42, 0x24, 0x18]

/-- The cells of a row from left to right: whether they have the foreground colour. -/
def cells (row : UInt8) : List Bool := (List.range 8).map fun x => row.toNat.testBit (7 - x)

/-- The number of cells with the foreground colour. -/
def coverage (p : Pattern) : Nat := (p.rows.flatMap cells).countP id

end Pattern

end ShapeOutline
