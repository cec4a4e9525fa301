import ShapeOutline.Picture.Jpeg.Frame

/-!
# JPEG files

The size of a picture stands in its frame. It is known when the segments up to the first scan, where
the pixels begin, are all there and make sense, and one of them is the frame.
-/

namespace ShapeOutline.Picture.Jpeg

namespace Segment

/-- Whether the colour transform is one of three, if the segment is the one in which some programs
state it. -/
def isTransform (s : Segment) : Bool :=
  14 ≤ s.length && (s.data.take 5 != "Adobe".toUTF8.toList || s.data.getD 11 0 ≤ 2)

/-- Whether a segment before the first scan makes sense. The pixels do not end here, and neither a
count of lines nor arithmetic coding is read. Tables, the distance between restarts and the colour
transform are checked; of other kinds nothing is asked. -/
def isReadable (s : Segment) : Bool :=
  match s.kind.toNat with
  | 0xC0 | 0xC1 | 0xC2 => s.frame?.isSome
  | 0xC4 => areCodes s.data
  | 0xCC | 0xD9 | 0xDC => false
  | 0xDB => areQuantizers s.data
  | 0xDD => s.length == 4
  | 0xEE => s.isTransform
  | _ => true

end Segment

/-- The size of the picture in a file. -/
def size? (bytes : List UInt8) : Option PixelSize := do
  let all := segments (bytes.drop 2)
  let before := all.takeWhile fun s => !s.isScan
  let scan ← all.find? Segment.isScan
  match before.filter Segment.isFrame with
  | [s] =>
    let frame ← s.frame?
    if before.all Segment.isReadable ∧ scan.isScanOf frame.components then some frame.size else none
  | _ => none

end ShapeOutline.Picture.Jpeg
