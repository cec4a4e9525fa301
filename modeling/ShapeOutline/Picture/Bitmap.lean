import ShapeOutline.Picture.Bytes

/-!
# Device-independent bitmaps

A file begins with the letters `BM` and a header, of which there are two kinds: the old short one,
and the long one, which later versions only extend. Behind it stands the palette, if the pixels are
numbers of colours. The size is known when header and palette are all there and fit together.
-/

namespace ShapeOutline.Picture.Bitmap

/-- The bytes with which a file begins. -/
def signature : List UInt8 := "BM".toUTF8.toList

/-- The length of the part of a file before the header. -/
def fileHeaderBytes : Nat := 14

/-- The lengths of the long headers. -/
def longHeaders : List Nat := [40, 52, 56, 108, 124]

/-- The value of the highest of the bits in four bytes. -/
def signBit : Nat := 0x80000000

/-- The value of a field of four bytes whose highest bit is a sign. -/
def signed (v : Nat) : Int := if v < signBit then v else (v : Int) - 2 * signBit

/-- The number at an offset in the header. -/
def number? (offset width : Nat) (header : List UInt8) : Option Nat :=
  (bytesAt? offset width header).map littleEndian

/-- Whether there is a palette of some colours behind the header. Files may state more colours than
a byte can name, but not more than the bits of a pixel can. -/
def hasPalette (used depth colorBytes headerLength : Nat) (header : List UInt8) : Bool :=
  let nameable := Nat.pow 2 depth
  let colors := if used = 0 then nameable else used
  colors ≤ nameable &&
    (bytesAt? headerLength (min colors 256 * colorBytes) header).isSome

/-- The size in a file with the short header. -/
def shortSize? (header : List UInt8) : Option PixelSize := do
  let width ← number? 4 2 header
  let height ← number? 6 2 header
  let planes ← number? 8 2 header
  let depth ← number? 10 2 header
  if planes = 1 ∧ (depth = 24 ∨ [1, 4, 8].contains depth ∧ hasPalette 0 depth 3 12 header) then
    PixelSize.proper? ⟨width, height⟩
  else none

/-- The bits of a mask are one block within the pixel. -/
def isMask (depth mask : Nat) : Bool :=
  0 < mask &&
    (List.range depth).any fun low =>
      (List.range (depth + 1)).any fun high => mask == Nat.pow 2 high - Nat.pow 2 low

/-- The lengths of the headers that have a mask for transparency. -/
def transparentHeaders : List Nat := [56, 108, 124]

/-- Whether the masks of the three channels stand where they have to and make sense. Where there is
a mask for transparency, it may be empty. -/
def hasMasks (depth headerLength : Nat) (header : List UInt8) : Bool :=
  ([40, 44, 48].all fun offset => (number? offset 4 header).any (isMask depth)) &&
    (!transparentHeaders.contains headerLength ||
      (number? 52 4 header).any fun mask => mask == 0 || isMask depth mask)

/-- Whether the pixels have a form that is read, given how they are packed and the bits of each. -/
def isReadable (packing depth used headerLength : Nat) (header : List UInt8) : Bool :=
  let palette := hasPalette used depth 4 headerLength header
  match packing with
  | 0 => [16, 24, 32].contains depth || ([1, 2, 4, 8].contains depth && palette)
  | 1 => depth == 8 && palette
  | 2 => depth == 4 && palette
  | 3 => [16, 32].contains depth && hasMasks depth headerLength header
  | _ => false

/-- The size in a file with a long header. A negative height counts from the top. -/
def longSize? (headerLength : Nat) (header : List UInt8) : Option PixelSize := do
  let width ← (number? 4 4 header).map signed
  let height ← (number? 8 4 header).map signed
  let planes ← number? 12 2 header
  let depth ← number? 14 2 header
  let packing ← number? 16 4 header
  let used ← number? 32 4 header
  let _ ← number? 36 4 header
  if 0 ≤ width ∧ width ≤ 65535 ∧ -signBit < height ∧ height ≤ 65535 ∧ planes = 1 ∧
      (height < 0 → packing = 0 ∨ packing = 3) ∧
      isReadable packing depth used headerLength header then
    PixelSize.proper? ⟨width.toNat, height.natAbs⟩
  else none

/-- The size of the picture in a file. -/
def size? (bytes : List UInt8) : Option PixelSize := do
  let header := bytes.drop fileHeaderBytes
  let length ← number? 0 4 header
  if length = 12 then shortSize? header
  else if longHeaders.contains length then longSize? length header
  else none

end ShapeOutline.Picture.Bitmap
