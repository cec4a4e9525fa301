import ShapeOutline.Picture.Bytes

/-!
# The segments of JPEG files

A file is a list of segments. Each begins with the byte `FF` and its kind, then comes its length,
which counts itself, and its data.

* `Segment`: a segment, and `Segment.isComplete`: whether its data is all there;
* `segments`: the segments of a file.
-/

namespace ShapeOutline.Picture.Jpeg

/-- The bytes with which a file begins; the last of them opens the first segment. -/
def signature : List UInt8 := [0xFF, 0xD8, 0xFF]

/-- A segment; the data is short when the file ends within it. -/
structure Segment where
  kind : UInt8
  length : Nat
  data : List UInt8
deriving DecidableEq, Repr

/-- The bytes that a segment takes from its length on: as many as the length says. Only the first of
the application segments takes one more when it has room for four bytes of data, because its data
begins with a name of five. -/
def span (kind : UInt8) (length : Nat) : Nat :=
  if kind = 0xE0 ∧ length = 6 then 7 else length

/-- The segments of a file behind its first two bytes. Bytes before a segment are skipped, and so
are bytes that only fill up its beginning. Without a length there is no segment. -/
def segments : List UInt8 → List Segment
  | a :: b :: rest =>
    if a ≠ 0xFF then segments (b :: rest)
    else if b = 0xFF then segments (b :: rest)
    else if b = 0 then segments rest
    else
      let length := bigEndian (rest.take 2)
      if rest.length < 2 ∨ length < 2 then []
      else
        ⟨b, length, (rest.drop 2).take (length - 2)⟩ :: segments (rest.drop (span b length))
  | _ => []
termination_by bytes => bytes.length
decreasing_by
  all_goals simp only [List.length_cons, List.length_drop]
  all_goals omega

/-- Whether the data is all there. -/
def Segment.isComplete (s : Segment) : Bool := s.data.length + 2 == s.length

end ShapeOutline.Picture.Jpeg
