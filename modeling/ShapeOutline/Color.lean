/-!
# Colours

A colour is either given by its three channels or kept by name: the theme colours that nobody has
resolved, and whatever else a document puts in the place of a colour.
-/

namespace ShapeOutline

/-- A colour as it is handed over with a fill or a line. -/
inductive Color where
  | rgb (red green blue : UInt8)
  | scheme (name : String)
  | raw (text : String)
deriving DecidableEq, Repr

namespace Color

/-- The colour of lines and fills that do not name one. -/
def black : Color := rgb 0 0 0

/-- The hexadecimal digit of a number below sixteen. -/
def hexChar (n : Nat) : Char :=
  if n < 10 then Char.ofNat ('0'.toNat + n) else Char.ofNat ('a'.toNat + (n - 10))

/-- The value of a hexadecimal digit in either case. -/
def hexValue? (c : Char) : Option Nat :=
  if '0' ≤ c ∧ c ≤ '9' then some (c.toNat - '0'.toNat)
  else if 'a' ≤ c ∧ c ≤ 'f' then some (c.toNat - 'a'.toNat + 10)
  else if 'A' ≤ c ∧ c ≤ 'F' then some (c.toNat - 'A'.toNat + 10)
  else none

/-- The two digits of a channel. -/
def channelChars (v : UInt8) : List Char := [hexChar (v.toNat / 16), hexChar (v.toNat % 16)]

/-- The channel with two given digits. -/
def channel (high low : Nat) : UInt8 := UInt8.ofNat (16 * high + low)

/-- The characters of a colour: a hash and six digits, or the name. -/
def chars : Color → List Char
  | rgb r g b => '#' :: channelChars r ++ channelChars g ++ channelChars b
  | scheme name => "scheme(".toList ++ name.toList ++ [')']
  | raw text => text.toList

/-- The text of a colour. -/
def text (c : Color) : String := String.ofList c.chars

/-- Six hexadecimal digits. -/
def ofDigits? : List Nat → Option Color
  | [r1, r0, g1, g0, b1, b0] => some (rgb (channel r1 r0) (channel g1 g0) (channel b1 b0))
  | _ => none

/-- The characters behind a leading hash, if there is one. -/
def withoutHash : List Char → List Char
  | '#' :: rest => rest
  | cs => cs

/-- Reads six hexadecimal digits, with or without a hash before them; any other text is kept as it
is. -/
def ofText (s : String) : Color :=
  (((withoutHash s.toList).mapM hexValue?).bind ofDigits?).getD (raw s)

end Color

end ShapeOutline
