import ShapeOutline.Custom
import ShapeOutline.Fill
import ShapeOutline.Marker
import ShapeOutline.Preset
import ShapeOutline.Shape.Error

/-!
# Shapes

A shape is compiled from what a document says of it: its outline, from a preset kind or spelled out,
in its box and perhaps flipped there; its fill and its line; arrowheads where the outline is a line;
and its shadow. Rotation is handed on as it is.

* `ShapeSpec`: what a document says of a shape;
* `ShapeSpec.validate`: the first thing wrong with it;
* `Shape`, `ShapeSpec.build`: the compiled shape, and the style table that holds its definitions.
-/

namespace ShapeOutline

/-- Where the outline of a shape comes from: a kind, named by its tag, or paths of its own. -/
inductive Geometry (α : Type) where
  | preset (tag : String)
  | custom (paths : List (CustomPath α))

/-- A shape as a document states it. -/
structure ShapeSpec (α : Type) where
  geometry : Geometry α
  box : Extent α
  rotation : Angle α
  flipH : Bool
  flipV : Bool
  guides : List RawGuide
  fill : Option (FillSpec α)
  groupFill : Option (FillSpec α)
  line : Option (LineSpec α)
  shadow : Option (ShadowSpec α)
  scale : UnitScale α
  defaults : PaintDefaults α

/-- A compiled shape. Custom outlines and unknown tags have no kind. -/
structure Shape (α : Type) where
  kind : Option Kind
  path : Path α
  fill : Fill α
  stroke : Stroke α
  definitions : Definitions α
  markers : List (Marker α)
  rotation : Angle α

namespace ShapeSpec

variable {α : Type}

/-- The kind of a shape. -/
def kind? (s : ShapeSpec α) : Option Kind :=
  match s.geometry with
  | .preset tag => Kind.ofTag? tag
  | .custom _ => none

variable [Scalar α]

/-- Finds what is wrong with a shape: its box first, then its scale, its rotation and its kind. -/
def validate (s : ShapeSpec α) : Except (ShapeError α) Unit := do
  let _ ← (Extent.ofSides s.box.w s.box.h).mapError (.invalidBounds s.box.w s.box.h)
  let _ ← (UnitScale.ofFactor s.scale.factor).mapError (.invalidScale s.scale.factor)
  let _ ← (checkFinite s.rotation.degrees).mapError (.invalidRotation s.rotation.degrees)
  match s.geometry, s.kind? with
  | .preset tag, none => throw (.unknownKind tag)
  | _, _ => return

/-- The outline of a shape before it is flipped. An unknown tag has the empty outline. -/
def outline (s : ShapeSpec α) : Guided (Path α) :=
  match s.geometry with
  | .custom paths => .ok (customOutline paths s.box)
  | .preset tag =>
    match Kind.ofTag? tag with
    | some kind => kind.outline s.box.w s.box.h (.resolve kind.guides s.guides s.scale)
    | none => .ok Path.empty

/-- Whether a shape with some outline gets arrowheads: its kind is a line, or its own outline is
open somewhere. -/
def isLine (s : ShapeSpec α) (outline : Path α) : Bool :=
  match s.geometry with
  | .custom _ => outline.hasOpenSubpath
  | .preset _ => s.kind?.any Kind.isLineLike

/-- The shadow of a shape in device units. -/
def shadow? (s : ShapeSpec α) : Option (Shadow α) :=
  s.shadow.map fun shadow => shadow.resolve s.scale s.defaults.shadowAlpha

/-- The definitions of a shadow, and the style table that holds them. -/
def internShadow (shadow : Option (Shadow α)) (styles : StyleTable) :
    Definitions α × StyleTable :=
  match shadow with
  | some shadow =>
    let definition := Definition.shadow shadow
    let (id, styles) := definition.intern styles
    ([(id, definition)], styles)
  | none => ([], styles)

/-- Compiles a shape, and enters its definitions into the style table of its document: that of its
fill, then that of its shadow. -/
def build (s : ShapeSpec α) (styles : StyleTable) : Guided (Shape α × StyleTable) := do
  let outline ← s.outline
  let path := outline.flipped s.box.w s.box.h s.flipH s.flipV
  let stroke := Stroke.ofSpec s.line s.scale s.defaults
  let markers := if s.isLine outline then path.markers s.line stroke.width s.defaults else []
  let (fill, styles) := (Paint.ofSpec s.fill s.groupFill s.kind? s.box).intern styles
  let (shadows, styles) := internShadow s.shadow? styles
  let shape := {
    kind := s.kind?
    path, fill, stroke
    definitions := fill.definitions ++ shadows
    markers
    rotation := s.rotation }
  return (shape, styles)

end ShapeSpec

end ShapeOutline
