import ShapeOutline.Decimal.Significant
import ShapeOutline.Measure
import ShapeOutline.Picture.Size

/-!
# Pictures

A picture fills a box, or is laid over it in tiles. A tile has the size of the picture times a
stored scale; when the size of the picture is not known, the scale alone is taken as a share of the
box.
-/

namespace ShapeOutline

open Picture (PixelSize)

/-- The stored scale of a tile. -/
structure TileScale where
  x : Int
  y : Int
deriving DecidableEq, Repr

/-- A picture as a document states it: its name, the bytes of its file where they are loaded, and
how it is tiled. -/
structure PictureSpec where
  name : String
  file : Option (List UInt8)
  tile : Option TileScale

/-- A picture in a box: its size in pixels where it is known, and the extent of a tile as a share of
the box. -/
structure PictureTile (α : Type) where
  name : String
  pixels : Option PixelSize
  extent : Extent α
deriving BEq

variable {α : Type} [Scalar α]

namespace PictureSpec

/-- The extent of a tile as a share of the box. -/
def tileExtent (p : PictureSpec) (pixels : Option PixelSize) (box : Extent α) : Extent α :=
  match p.tile with
  | none => ⟨1, 1⟩
  | some scale =>
    let sx : α := fraction scale.x
    let sy : α := fraction scale.y
    match pixels with
    | some size =>
      if box.isDegenerate then ⟨sx, sy⟩
      else
        ⟨Scalar.ofNat size.width * sx / box.w, Scalar.ofNat size.height * sy / box.h⟩
    | none => ⟨sx, sy⟩

/-- The picture in a box. -/
def resolve (p : PictureSpec) (box : Extent α) : PictureTile α :=
  let pixels := p.file.bind Picture.size?
  ⟨p.name, pixels, p.tileExtent pixels box⟩

end PictureSpec

/-- The text by which a picture is defined. -/
def PictureTile.chars (t : PictureTile α) : List Char :=
  "picture:".toList ++ t.name.toList ++ ";tile:".toList ++ Scalar.chars t.extent.w ++
    ',' :: Scalar.chars t.extent.h

end ShapeOutline
