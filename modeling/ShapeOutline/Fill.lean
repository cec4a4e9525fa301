import ShapeOutline.Gradient
import ShapeOutline.Kind
import ShapeOutline.Pattern.Tile
import ShapeOutline.Picture
import ShapeOutline.Shadow
import ShapeOutline.Style

/-!
# Fills

The inside of a shape is painted with one colour or with a definition that shapes share: a gradient,
a pattern or a picture. A shape in a group may ask for the fill of its group. Kinds that are bare
outlines are filled with one colour or with a pattern only.

* `FillSpec`: what a document says of a fill;
* `Paint.ofSpec`: what is painted;
* `Paint.intern`: the fill of a shape, its definition entered into a style table;
* `Definition`, `Definition.text`: what can be defined, and by which text.
-/

namespace ShapeOutline

/-- A fill as a document states it. -/
inductive FillSpec (α : Type) where
  | none
  | solid (color : Color) (alpha : α)
  | gradient (gradient : GradientSpec α)
  | pattern (name : String) (foreground background : Color)
  | picture (picture : PictureSpec)
  | group

/-- What a shape can refer to by an identifier. -/
inductive Definition (α : Type) where
  | gradient (gradient : Gradient α)
  | pattern (tile : PatternTile)
  | picture (tile : PictureTile α)
  | shadow (shadow : Shadow α)
deriving BEq

/-- What the inside of a shape is painted with. -/
inductive Paint (α : Type) where
  | none
  | solid (color : Color) (alpha : α)
  | gradient (gradient : Gradient α)
  | pattern (tile : PatternTile)
  | picture (tile : PictureTile α)
  | inherited

/-- The fill of a shape: its paint, and the identifier of the definition that the paint needs. -/
structure Fill (α : Type) where
  paint : Paint α
  id : Option StyleId

/-- The definitions that a shape refers to, with their identifiers. -/
abbrev Definitions (α : Type) := List (StyleId × Definition α)

variable {α : Type}

/-- The first definition with an identifier. -/
def Definitions.get? (defs : Definitions α) (id : StyleId) : Option (Definition α) :=
  (defs.find? fun d => d.1 == id).map Prod.snd

namespace Paint

/-- What a paint needs to be defined. -/
def definition? : Paint α → Option (Definition α)
  | gradient g => some (.gradient g)
  | pattern t => some (.pattern t)
  | picture t => some (.picture t)
  | _ => Option.none

/-- What is left of a paint on a bare outline. -/
def onOutline : Paint α → Paint α
  | solid color alpha => solid color alpha
  | pattern tile => pattern tile
  | _ => none

end Paint

namespace Fill

/-- Whether nothing is painted. -/
def isNone (f : Fill α) : Bool :=
  match f.paint with
  | .none => true
  | _ => false

/-- How a shape refers to its fill: by a colour, or by the identifier of a definition. -/
def reference (f : Fill α) : String :=
  match f.paint, f.id with
  | _, some id => "url(#" ++ id.text ++ ")"
  | .solid color _, _ => color.text
  | .inherited, _ => "inherit"
  | _, _ => "none"

/-- The definitions that a fill needs. -/
def definitions (f : Fill α) : Definitions α :=
  match f.id, f.paint.definition? with
  | some id, some d => [(id, d)]
  | _, _ => []

end Fill

namespace FillSpec

/-- The fill that counts: that of the group, where the shape asks for it and the group has one of
its own. -/
def effective (fill groupFill : Option (FillSpec α)) : FillSpec α :=
  match fill, groupFill with
  | some .group, some g => g
  | some f, _ => f
  | Option.none, _ => .none

end FillSpec

variable [Scalar α]

namespace Definition

/-- The characters by which something is defined. -/
def chars : Definition α → List Char
  | gradient g => g.chars
  | pattern t => t.chars α
  | picture t => t.chars
  | shadow s => s.chars

/-- The text by which something is defined. -/
def text (d : Definition α) : String := String.ofList d.chars

/-- The identifier of a definition, and the style table that holds it. -/
def intern (d : Definition α) (styles : StyleTable) : StyleId × StyleTable := styles.intern d.text

end Definition

namespace Paint

/-- The paint of a fill in a box. -/
def ofFill (box : Extent α) : FillSpec α → Paint α
  | .none => none
  | .solid color alpha => solid color (Scalar.clamp alpha 0 1)
  | .gradient g => gradient (g.resolve box)
  | .pattern name foreground background => pattern ⟨Pattern.ofTag name, foreground, background⟩
  | .picture p => picture (p.resolve box)
  | .group => inherited

/-- The paint of a shape of some kind in a box; custom outlines have no kind. -/
def ofSpec (fill groupFill : Option (FillSpec α)) (kind : Option Kind) (box : Extent α) :
    Paint α :=
  let paint := ofFill box (FillSpec.effective fill groupFill)
  if kind.any Kind.isOutlineOnly then paint.onOutline else paint

/-- The fill with a paint, and the style table that holds what the paint needs. -/
def intern (paint : Paint α) (styles : StyleTable) : Fill α × StyleTable :=
  match paint.definition? with
  | some d =>
    let (id, styles) := d.intern styles
    (⟨paint, some id⟩, styles)
  | Option.none => (⟨paint, Option.none⟩, styles)

end Paint

end ShapeOutline
