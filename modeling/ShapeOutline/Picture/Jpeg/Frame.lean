import ShapeOutline.Picture.Jpeg.Segment
import ShapeOutline.Picture.Jpeg.Table

/-!
# The frame and the scans of JPEG files

The frame states the size of the picture and its components, each with an identifier. A scan names
the components whose pixels follow it.

* `Frame`, `Segment.frame?`: the frame, if a segment describes one rightly;
* `Segment.isScanOf`: whether a segment opens a scan of some components.
-/

namespace ShapeOutline.Picture.Jpeg

/-- The size of a picture and the identifiers of its components. -/
structure Frame where
  size : PixelSize
  components : List UInt8
deriving DecidableEq, Repr

/-- How many samples of a component may stand for one block of the picture in each direction. -/
def samplings : List Nat := [1, 2, 4]

/-- The identifiers of components that are described rightly: by three bytes each, the identifier,
the sampling in both directions, and the place of a table. -/
def componentIds? : List UInt8 → Option (List UInt8)
  | [] => some []
  | id :: sampling :: table :: rest =>
    if samplings.contains (upperHalf sampling) ∧ samplings.contains (lowerHalf sampling) ∧
        table.toNat < tablePlaces then
      (componentIds? rest).map (id :: ·)
    else none
  | _ => none

namespace Segment

/-- Whether this is the frame, in one of the common forms: baseline, extended or progressive. -/
def isFrame (s : Segment) : Bool := 0xC0 ≤ s.kind && s.kind ≤ 0xC2

/-- The frame that is described: eight bits to a channel, a size, and one to four components. -/
def frame? (s : Segment) : Option Frame :=
  match s.data with
  | 8 :: h1 :: h0 :: w1 :: w0 :: count :: rest => do
    let ids ← componentIds? rest
    let size ← PixelSize.proper? ⟨bigEndian [w1, w0], bigEndian [h1, h0]⟩
    if ids.length = count.toNat ∧ 1 ≤ ids.length ∧ ids.length ≤ 4 then some ⟨size, ids⟩ else none
  | _ => none

/-- Whether this opens a scan: the pixels follow. -/
def isScan (s : Segment) : Bool := s.kind == 0xDA

end Segment

/-- The components that a scan names, by two bytes each, of which the second says where the tables
of the component are. -/
def scanIds : List UInt8 → List UInt8
  | id :: _ :: rest => id :: scanIds rest
  | _ => []

/-- Whether no byte stands twice in a list. -/
def areDistinct : List UInt8 → Bool
  | [] => true
  | b :: rest => !rest.contains b && areDistinct rest

/-- Whether the range of frequencies and the precisions of a scan, the former and the new one in the
halves of a byte, are within their limits. -/
def isRefinement : List UInt8 → Bool
  | [first, last, precisions] =>
    first ≤ 63 && last ≤ 63 && upperHalf precisions ≤ 13 && lowerHalf precisions ≤ 13
  | _ => false

/-- Whether a segment opens a scan of some of the given components, of each once. -/
def Segment.isScanOf (components : List UInt8) (s : Segment) : Bool :=
  match s.data with
  | count :: rest =>
    let n := count.toNat
    let ids := scanIds (rest.take (2 * n))
    1 ≤ n && n ≤ 4 && s.isComplete && areDistinct ids && ids.all components.contains &&
      isRefinement (rest.drop (2 * n))
  | [] => false

end ShapeOutline.Picture.Jpeg
