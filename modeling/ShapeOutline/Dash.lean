import ShapeOutline.Measure

/-!
# Dashes

A dashed line alternates between lengths that are drawn and lengths that are not. The named dashes
give them in multiples of the line's width, a document's own in stored shares of it. A line without
lengths is solid.
-/

namespace ShapeOutline

/-- The named dashes. -/
inductive PresetDash where
  | solid
  | dot
  | dash
  | lgDash
  | dashDot
  | lgDashDot
  | lgDashDotDot
  | sysDash
  | sysDot
  | sysDashDot
  | sysDashDotDot
deriving DecidableEq, Repr

namespace PresetDash

/-- All named dashes. -/
def all : List PresetDash :=
  [solid, dot, dash, lgDash, dashDot, lgDashDot, lgDashDotDot, sysDash, sysDot, sysDashDot,
    sysDashDotDot]

/-- The name of a dash in documents. -/
def tag : PresetDash → String
  | solid => "solid"
  | dot => "dot"
  | dash => "dash"
  | lgDash => "lgDash"
  | dashDot => "dashDot"
  | lgDashDot => "lgDashDot"
  | lgDashDotDot => "lgDashDotDot"
  | sysDash => "sysDash"
  | sysDot => "sysDot"
  | sysDashDot => "sysDashDot"
  | sysDashDotDot => "sysDashDotDot"

/-- The dash with a name. -/
def ofTag? (text : String) : Option PresetDash := all.find? fun d => d.tag == text

/-- The lengths in multiples of the line's width, drawn and not drawn in turn. -/
def multiples : PresetDash → List Nat
  | solid => []
  | dot => [1, 3]
  | dash => [4, 3]
  | lgDash => [8, 3]
  | dashDot => [4, 3, 1, 3]
  | lgDashDot => [8, 3, 1, 3]
  | lgDashDotDot => [8, 3, 1, 3, 1, 3]
  | sysDash => [3, 1]
  | sysDot => [1, 1]
  | sysDashDot => [3, 1, 1, 1]
  | sysDashDotDot => [3, 1, 1, 1, 1, 1]

end PresetDash

/-- The drawn length of a dash and the gap behind it, as stored shares of the line's width. -/
structure DashStop where
  drawn : Int
  gap : Int
deriving DecidableEq, Repr

/-- How a line is dashed. -/
inductive Dash where
  | preset (name : PresetDash)
  | custom (stops : List DashStop)
deriving DecidableEq, Repr

namespace Dash

/-- The dash with a name; names that are not known stand for a solid line. -/
def ofTag (text : String) : Dash := .preset ((PresetDash.ofTag? text).getD .solid)

variable {α : Type} [Scalar α]

/-- The lengths for a line of some width, drawn and not drawn in turn. -/
def lengths (d : Dash) (width : α) : List α :=
  match d with
  | preset name => name.multiples.map fun k => Scalar.ofNat k * width
  | custom stops =>
    stops.flatMap fun s => [fraction s.drawn * width, fraction s.gap * width]

end Dash

end ShapeOutline
