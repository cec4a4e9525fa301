import ShapeOutline.Picture.Png
import ShapeOutline.Picture.Jpeg
import ShapeOutline.Picture.Gif
import ShapeOutline.Picture.Bitmap

/-!
# The size of a picture

The size of a picture is read from the header of its file, without looking at the pixels. The first
bytes of the file tell its format.
-/

namespace ShapeOutline.Picture

/-- The size of the picture in a file of one of the four known formats. -/
def size? (bytes : List UInt8) : Option PixelSize :=
  if Png.signature.isPrefixOf bytes then Png.size? bytes
  else if Jpeg.signature.isPrefixOf bytes then Jpeg.size? bytes
  else if Gif.signatures.any (·.isPrefixOf bytes) then Gif.size? bytes
  else if Bitmap.signature.isPrefixOf bytes then Bitmap.size? bytes
  else none

end ShapeOutline.Picture
