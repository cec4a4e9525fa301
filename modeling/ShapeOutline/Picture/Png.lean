import ShapeOutline.Picture.Bytes

/-!
# Portable Network Graphics

After its signature a file is a list of chunks: the length of the data, a name of four letters, the
data, and a checksum of name and data. The first chunk is the header, with the size of the picture
and the form of its pixels; the pixels begin with the first chunk named `IDAT`. The size is known
when everything before the pixels is in order. Only chunks whose name begins with a capital letter
are vital, and only their checksums count.

* `Chunk`, `chunks`: the chunks of a file;
* `Header`: what the first chunk says;
* `Preamble`: what the chunks between the header and the pixels say;
* `size?`: the size of the picture.
-/

namespace ShapeOutline.Picture.Png

/-- The bytes with which a file begins. -/
def signature : List UInt8 := [0x89, 0x50, 0x4E, 0x47, 0x0D, 0x0A, 0x1A, 0x0A]

/-- A chunk with the length it states; data and checksum are short when the file ends within it. -/
structure Chunk where
  length : Nat
  name : List UInt8
  data : List UInt8
  checksum : List UInt8
deriving DecidableEq, Repr

/-- The chunks of a file behind its signature. A last one of which not even the name is there is
left out. -/
def chunks (bytes : List UInt8) : List Chunk :=
  if bytes.length < 8 then []
  else
    let length := bigEndian (bytes.take 4)
    let body := bytes.drop 8
    ⟨length, (bytes.drop 4).take 4, body.take length, (body.drop length).take 4⟩ ::
      chunks (body.drop (length + 4))
termination_by bytes.length
decreasing_by
  simp only [List.length_drop]
  omega

/-- One bit of the checksum: division by the polynomial `EDB88320`, its lowest power first. -/
def checksumBit (state : UInt32) : UInt32 :=
  if state &&& 1 = 0 then state >>> 1 else (state >>> 1) ^^^ 0xEDB88320

/-- One byte of the checksum. -/
def checksumByte (state : UInt32) (byte : UInt8) : UInt32 :=
  (List.range 8).foldl (fun s _ => checksumBit s) (state ^^^ byte.toUInt32)

/-- The checksum of some bytes. -/
def checksum (bytes : List UInt8) : UInt32 := ~~~(bytes.foldl checksumByte 0xFFFFFFFF)

namespace Chunk

/-- Whether the checksum is there and right. -/
def isIntact (c : Chunk) : Bool :=
  c.checksum.length == 4 &&
    bigEndian c.checksum == (Png.checksum (c.name ++ c.data)).toNat

/-- Whether a reader must understand the chunk: bit five of the first letter is not set. -/
def isVital (c : Chunk) : Bool := !(c.name.headD 0).toNat.testBit 5

/-- Whether the chunk has a name. -/
def isNamed (c : Chunk) (name : String) : Bool := c.name == name.toUTF8.toList

end Chunk

/-- What the first chunk says: the size of the picture, the bits to a channel, and the form of the
pixels: grey, colour, palette, grey with transparency, colour with transparency. -/
structure Header where
  size : PixelSize
  depth : Nat
  form : Nat
deriving DecidableEq, Repr

/-- The bits to a channel that go with each form of pixels. -/
def depths : Nat → List Nat
  | 0 => [1, 2, 4, 8, 16]
  | 2 => [8, 16]
  | 3 => [1, 2, 4, 8]
  | 4 => [8, 16]
  | 6 => [8, 16]
  | _ => []

/-- The header in some data, if a reader can make sense of it. -/
def Header.ofBytes? (data : List UInt8) : Option Header := do
  let size ← PixelSize.proper? ⟨bigEndian (data.take 4), bigEndian ((data.drop 4).take 4)⟩
  match data.drop 8 with
  | [depth, form, compression, filtering, interlace] =>
    if (depths form.toNat).contains depth.toNat ∧ compression = 0 ∧ filtering = 0 ∧ interlace ≤ 1
    then some ⟨size, depth.toNat, form.toNat⟩
    else none
  | _ => none

/-- The channels of a pixel of some form, with the numbers of a palette replaced by colours. A form
without transparency gets a channel for it when it is given apart from the pixels. -/
def channels (form : Nat) (transparent : Bool) : Nat :=
  let more := if transparent then 1 else 0
  match form with
  | 0 => 1 + more
  | 2 | 3 => 3 + more
  | 4 => 2
  | _ => 4

/-- The bytes of a row of pixels; a channel has at least one of them. -/
def Header.rowBytes (h : Header) (transparent : Bool) : Nat :=
  h.size.width * channels h.form transparent * (if h.depth = 16 then 2 else 1)

/-- The most bytes that a row may have. -/
def rowLimit : Nat := 0x20000000

/-- What the chunks between the header and the pixels say: whether there is a palette, whether
transparency and the code points of a colour space are given, and the number of animation frames
that are announced. -/
structure Preamble where
  hasPalette : Bool
  isTransparent : Bool
  hasColorSpace : Bool
  frames : Nat
deriving DecidableEq, Repr

namespace Preamble

/-- Nothing was said yet. -/
def start : Preamble := ⟨false, false, false, 0⟩

/-- Whether some data announces the animation frame with a number that is the picture itself: it
covers the whole picture, and what happens before and after it is one of the known ways. -/
def isWholeFrame (number : Nat) (size : PixelSize) (data : List UInt8) : Bool :=
  let field (n : Nat) := bigEndian ((data.drop (4 * n)).take 4)
  data.length == 26 && field 0 == number && field 1 == size.width && field 2 == size.height &&
    field 3 == 0 && field 4 == 0 && data.getD 24 0 ≤ 2 && data.getD 25 0 ≤ 1

/-- Whether some data gives the transparency of pixels of some form: a shade, a colour, or a list
for a palette that is there. -/
def givesTransparency (form : Nat) (hasPalette : Bool) (data : List UInt8) : Bool :=
  data.length ≤ 256 &&
    match form with
    | 0 => 2 ≤ data.length
    | 2 => 6 ≤ data.length
    | 3 => 1 ≤ data.length && hasPalette
    | _ => false

/-- Whether a background chunk names a colour of a palette that is not there. The background takes
from one to six bytes in whatever form of pixels; other lengths say nothing. -/
def lacksPalette (p : Preamble) (h : Header) (c : Chunk) : Bool :=
  h.form == 3 && !p.hasPalette && 1 ≤ c.length && c.length ≤ 6

/-- Whether some data gives the code points of a colour space: the primaries, the transfer function,
the matrix, which is none for pixels of red, green and blue, and whether the full range is used. -/
def isColorSpace : List UInt8 → Bool
  | [_, _, matrix, fullRange] => matrix == 0 && fullRange ≤ 1
  | _ => false

/-- Whether a chunk is where the code points of a colour space count: before a palette, the first of
its name, and of the right length. -/
def countsAsColorSpace (p : Preamble) (c : Chunk) : Bool :=
  !p.hasPalette && !p.hasColorSpace && c.length == 4

/-- Reads a chunk before the pixels. Of the vital ones there may be one palette of up to 256
colours. A chunk that is not vital is passed over when it is damaged or makes no sense, except the
announcement of an animation frame, a background that refers to a missing palette, and the code
points of a colour space. -/
def read (h : Header) (p : Preamble) (c : Chunk) : Option Preamble :=
  if !c.isIntact then if c.isVital then none else some p
  else if c.isNamed "PLTE" then
    if p.hasPalette ∨ c.length < 3 ∨ 768 < c.length then none
    else some { p with hasPalette := true }
  else if c.isNamed "fcTL" then
    if isWholeFrame p.frames h.size c.data then some { p with frames := p.frames + 1 } else none
  else if c.isNamed "cICP" then
    if !p.countsAsColorSpace c then some p
    else if isColorSpace c.data then some { p with hasColorSpace := true }
    else none
  else if c.isNamed "bKGD" then if p.lacksPalette h c then none else some p
  else if c.isNamed "tRNS" then
    let given := givesTransparency h.form p.hasPalette c.data
    some { p with isTransparent := p.isTransparent || given }
  else if c.isVital then none
  else some p

/-- Reads the chunks up to the pixels. The pixels of an animation frame that was announced count as
well; they begin with four bytes of their own. -/
def readAll (h : Header) : Preamble → List Chunk → Option Preamble
  | _, [] => none
  | p, c :: rest =>
    if c.isNamed "IDAT" then some p
    else if c.isNamed "fdAT" then if 0 < p.frames ∧ 4 ≤ c.length then some p else none
    else
      match p.read h c with
      | none => none
      | some p => readAll h p rest

end Preamble

/-- The size of the picture in a file. -/
def size? (bytes : List UInt8) : Option PixelSize := do
  match chunks (bytes.drop signature.length) with
  | first :: rest =>
    if first.isNamed "IHDR" ∧ first.isIntact then
      let h ← Header.ofBytes? first.data
      let p ← Preamble.start.readAll h rest
      if h.rowBytes p.isTransparent ≤ rowLimit then some h.size else none
    else none
  | [] => none

end ShapeOutline.Picture.Png
