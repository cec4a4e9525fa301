import Mathlib
import ShapeOutline.Proofs.Guide.Declared
import ShapeOutline.Proofs.Path.Drawable
import ShapeOutline.Preset.Frame

/-!
# What a formula draws

A formula reads some guides and draws. In every frame that holds these guides it gives a path, and
the sketch of the path does not depend on the frame: neither on the box nor on the values.
-/

namespace ShapeOutline.Preset

variable {α : Type} [Scalar α]

/-- In every frame that holds the named guides the formula gives a path, of one and the same
sketch. -/
def Outlines (names : List String) (s : Sketch) (formula : Frame α → Guided (Path α)) : Prop :=
  ∀ f : Frame α, f.guides.Declares names → ∃ p, formula f = .ok p ∧ p.Drawable s

namespace Outlines

variable {names : List String} {s : Sketch} {formula : Frame α → Guided (Path α)}

theorem transposed (h : Outlines names s formula) :
    Outlines names s fun f => (formula f.transposed).map Path.transposed := by
  intro f hf
  obtain ⟨p, hp, hdraw⟩ := h f.transposed hf
  exact ⟨_, congrArg (Except.map Path.transposed) hp, hdraw.transposed⟩

theorem flipped (h : Outlines names s formula) (horizontally vertically : Bool) :
    Outlines names s fun f => (formula f).map (Path.flipped f.w f.h horizontally vertically) := by
  intro f hf
  obtain ⟨p, hp, hdraw⟩ := h f hf
  exact ⟨_, congrArg (Except.map (Path.flipped f.w f.h horizontally vertically)) hp, hdraw.flipped⟩

end Outlines

end ShapeOutline.Preset
