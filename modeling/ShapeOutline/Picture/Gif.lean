import ShapeOutline.Picture.Bytes

/-!
# Graphics Interchange Format

A file begins with its version, the size of the screen, and a palette. Blocks follow; those that
begin with the byte `21` extend the header. The size is known when the extensions are in order and
another block follows them.
-/

namespace ShapeOutline.Picture.Gif

/-- The versions of the format; each is the beginning of a file. -/
def signatures : List (List UInt8) := ["GIF87a".toUTF8.toList, "GIF89a".toUTF8.toList]

/-- The number of bytes of the palette that the flags of the screen announce: three to a colour, and
none if the highest bit is not set. -/
def paletteBytes (flags : UInt8) : Nat :=
  if flags.toNat.testBit 7 then 3 * Nat.pow 2 (flags.toNat % 8 + 1) else 0

/-- The data of a list of blocks, each with its length in front, and what is behind the length of
zero that ends it. -/
def splitBlocks : List UInt8 → List UInt8 × List UInt8
  | [] => ([], [])
  | n :: rest =>
    if n = 0 then ([], rest)
    else
      let (data, behind) := splitBlocks (rest.drop n.toNat)
      (rest.take n.toNat ++ data, behind)
termination_by bytes => bytes.length
decreasing_by
  simp only [List.length_cons, List.length_drop]
  omega

/-- The kinds of extensions: plain text, the control of a picture, comments, and those of
applications. -/
def extensionKinds : List UInt8 := [0x01, 0xF9, 0xFE, 0xFF]

/-- What is behind an extension, of which the kind comes first and then a list of blocks. A control
has four bytes of data. -/
def behindExtension? : List UInt8 → Option (List UInt8)
  | [] => none
  | kind :: rest =>
    let blocks := splitBlocks rest
    if extensionKinds.contains kind ∧ (kind = 0xF9 → blocks.1.length = 4) then some blocks.2
    else none

theorem length_splitBlocks_le (bytes : List UInt8) :
    (splitBlocks bytes).2.length ≤ bytes.length := by
  fun_induction splitBlocks bytes with
  | case1 => simp
  | case2 rest => simp
  | case3 n rest h data behind heq ih =>
    simp only [heq, List.length_drop, List.length_cons] at ih ⊢
    omega

theorem length_behindExtension?_lt {bytes behind : List UInt8}
    (h : behindExtension? bytes = some behind) : behind.length < bytes.length := by
  match bytes with
  | [] => simp [behindExtension?] at h
  | kind :: rest =>
    have bound := length_splitBlocks_le rest
    simp only [behindExtension?, Option.ite_none_right_eq_some, Option.some.injEq] at h
    rw [← h.2, List.length_cons]
    omega

/-- Whether the header ends within some blocks: behind the extensions there is a block of another
kind, and a byte of it. The byte `3B`, which ends the file, is enough behind an extension. -/
def hasHeaderEnd (extended : Bool) : List UInt8 → Bool
  | [] => false
  | kind :: rest =>
    if kind = 0x21 then
      match _h : behindExtension? rest with
      | none => false
      | some behind => hasHeaderEnd true behind
    else (extended && kind == 0x3B) || !rest.isEmpty
termination_by bytes => bytes.length
decreasing_by
  have := length_behindExtension?_lt _h
  simp only [List.length_cons]
  omega

/-- The size of the picture in a file. -/
def size? (bytes : List UInt8) : Option PixelSize := do
  let width ← bytesAt? 6 2 bytes
  let height ← bytesAt? 8 2 bytes
  let screen ← bytesAt? 10 3 bytes
  let palette := paletteBytes (screen.headD 0)
  if palette + 13 ≤ bytes.length ∧ hasHeaderEnd false (bytes.drop (palette + 13)) then
    some ⟨littleEndian width, littleEndian height⟩
  else none

end ShapeOutline.Picture.Gif
