import ShapeOutline.Picture.Bytes

/-!
# The tables of JPEG files

A segment may hold several tables of one sort, one behind the other. Each begins with a byte whose
upper half says what form it has and whose lower half says which of four places it takes.

* `areQuantizers`: tables of 64 divisors;
* `areCodes`: tables of codes, given by the number of codes of each length and the values they
  stand for.
-/

namespace ShapeOutline.Picture.Jpeg

/-- The upper half of a byte. -/
def upperHalf (b : UInt8) : Nat := b.toNat / 16

/-- The lower half of a byte. -/
def lowerHalf (b : UInt8) : Nat := b.toNat % 16

/-- How many tables of each sort there are. -/
def tablePlaces : Nat := 4

/-- Whether some bytes are tables of divisors, of one byte or of two bytes each. -/
def areQuantizers : List UInt8 → Bool
  | [] => true
  | form :: rest =>
    let size := 64 * (upperHalf form + 1)
    upperHalf form ≤ 1 && lowerHalf form < tablePlaces && size ≤ rest.length &&
      areQuantizers (rest.drop size)
termination_by bytes => bytes.length
decreasing_by
  simp only [List.length_cons, List.length_drop]
  omega

/-- Whether there are codes for the given numbers of codes of each length, in order of length, such
that none begins another and none consists of ones only. Of the `limit` words of the first length,
`used` begin with shorter codes. -/
def leaveRoom : (limit used : Nat) → List UInt8 → Bool
  | _, _, [] => true
  | limit, used, n :: rest =>
    used + n.toNat < limit && leaveRoom (2 * limit) (2 * (used + n.toNat)) rest

/-- The number of codes of all lengths. -/
def codeCount (counts : List UInt8) : Nat := counts.foldl (fun n c => n + c.toNat) 0

/-- Whether some bytes are tables of codes. There are codes of up to 16 bits, and at most 256 of
them. The form is 0 for a table whose values are lengths of numbers, which go up to 15, and 1 for
any values. -/
def areCodes : List UInt8 → Bool
  | [] => true
  | form :: rest =>
    let counts := rest.take 16
    let count := codeCount counts
    let values := (rest.drop 16).take count
    upperHalf form ≤ 1 && lowerHalf form < tablePlaces && counts.length == 16 && count ≤ 256 &&
      values.length == count && leaveRoom 2 0 counts &&
      (upperHalf form == 1 || values.all fun v => v ≤ 15) &&
      areCodes (rest.drop (16 + count))
termination_by bytes => bytes.length
decreasing_by
  simp only [List.length_cons, List.length_drop]
  omega

end ShapeOutline.Picture.Jpeg
