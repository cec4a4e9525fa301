/-!
# Numbers in bytes

Image files keep their numbers in groups of bytes, the highest first or the lowest first. The fields
of a header lie at fixed offsets; a field that the file is too short for is not there.
-/

namespace ShapeOutline.Picture

/-- The number in some bytes, the highest first. -/
def bigEndian (bytes : List UInt8) : Nat := bytes.foldl (fun n b => 256 * n + b.toNat) 0

/-- The number in some bytes, the lowest first. -/
def littleEndian (bytes : List UInt8) : Nat := bigEndian bytes.reverse

/-- The first `n` bytes, if there are so many. -/
def firstBytes? (n : Nat) (bytes : List UInt8) : Option (List UInt8) :=
  let first := bytes.take n
  if first.length = n then some first else none

/-- The `width` bytes at an offset, if they are all there. -/
def bytesAt? (offset width : Nat) (bytes : List UInt8) : Option (List UInt8) :=
  firstBytes? width (bytes.drop offset)

/-- The width and the height of a picture in pixels. -/
structure PixelSize where
  width : Nat
  height : Nat
deriving DecidableEq, Repr

/-- The size, unless the picture has no pixels. -/
def PixelSize.proper? (s : PixelSize) : Option PixelSize :=
  if s.width = 0 ∨ s.height = 0 then none else some s

end ShapeOutline.Picture
