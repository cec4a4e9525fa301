import Mathlib
import ShapeOutline.Preset
import ShapeOutline.Proofs.Preset.Table
import ShapeOutline.Proofs.Scale.Figures
import ShapeOutline.Proofs.Scale.Arrows
import ShapeOutline.Proofs.Scale.Panels
import ShapeOutline.Proofs.Scale.Symbols

/-!
# Every kind at another size

The outline of a kind in a larger box, with the same guides, is the larger outline. The only formulas
that depend on the size otherwise see points of an ellipse in oblique directions, and take the ellipse
for a circle when its radii are close to each other. The ellipses that they see are that of the box
and holes in it, whose radii differ as much as those of the box.

* `Kind.seesDirections`: the kinds with such a formula;
* `Kind.preset_homogeneous`: the formula of every kind is homogeneous;
* `Kind.outline_scaled`: the outline of every kind at another size.
-/

namespace ShapeOutline

open Preset
open Scalar (tolerance)

namespace Preset

/-- A drawing that reads no guides, as the formula of a preset. -/
@[simp] theorem homogeneous_plain {oblique : Bool} {draw : Frame ℝ → Path ℝ} (h : Grows draw) :
    Homogeneous oblique (Preset.plain draw).outline :=
  fun r f _ => congrArg Except.ok (h r f)

@[simp] theorem Flowchart.magneticTape_homogeneous :
    Homogeneous true (Preset.plain Flowchart.magneticTape).outline :=
  fun r f h => congrArg Except.ok (Flowchart.magneticTape_grown r f (h rfl))

end Preset

namespace Kind

/-- Whether the formula of a kind sees points of an ellipse in directions that are oblique to its
axes. -/
def seesDirections : Kind → Bool
  | pie | chord | arc | blockArc | noSmoking | wedgeEllipseCallout | flowChartMagneticTape => true
  | _ => false

theorem preset_homogeneous (k : Kind) :
    ∀ p ∈ (k.preset? : Option (Preset ℝ)), Homogeneous k.seesDirections p.outline := by
  cases k <;> simp [preset?, seesDirections]

theorem outline_grown (k : Kind) (r : Ratio) (w h : ℝ) (guides : GuideSet ℝ)
    (hround : k.seesDirections = true → SameRoundness r (w / 2) (h / 2)) :
    k.outline (grown r w) (grown r h) guides = (k.outline w h guides).map (Path.grown r) := by
  have hhalf (x : ℝ) : x / (2 : ℕ) = x / 2 := by rw [Nat.cast_ofNat]
  rw [← hhalf, ← hhalf] at hround
  unfold outline
  cases hpreset : (k.preset? : Option (Preset ℝ)) with
  | none => rfl
  | some p => exact k.preset_homogeneous p hpreset r ⟨w, h, guides⟩ hround

/-- In a box that is `c` times as wide and `c` times as high, and with the same guides, the outline is
the same scaled by `c`. Where the formula tests whether the ellipse of the box is nearly a circle, the
test must come out the same in both boxes. The sides of the box may be zero or negative. -/
theorem outline_scaled {k : Kind} {guides : GuideSet ℝ}
    (hguides : guides.Declares ((k.guides : List (GuideDecl ℝ)).map GuideDecl.name))
    {w h c : ℝ} (hc : 0 < c)
    (hround : k.seesDirections = true → 0 < w → 0 < h →
      (|w / 2 - h / 2| < (tolerance : ℝ) ↔ |c * w / 2 - c * h / 2| < (tolerance : ℝ))) :
    ∃ p, k.outline w h guides = .ok p ∧ k.outline (c * w) (c * h) guides = .ok (p.scaled c c) := by
  obtain ⟨p, hp, -⟩ := outline_drawable hguides w h
  have hgrown (x : ℝ) : grown ⟨c, hc⟩ x = c * x := mul_comm x c
  have hsame : k.seesDirections = true → SameRoundness ⟨c, hc⟩ (w / 2) (h / 2) := by
    intro hsees hw hh
    rw [hgrown, hgrown, ← mul_div_assoc, ← mul_div_assoc]
    have hpos {x : ℝ} (hx : 0 < x / 2) : 0 < x := (div_pos_iff_of_pos_right two_pos).mp hx
    exact hround hsees (hpos hw) (hpos hh)
  have houtline := k.outline_grown ⟨c, hc⟩ w h guides hsame
  rw [hgrown, hgrown, hp] at houtline
  exact ⟨p, hp, houtline.trans (congrArg Except.ok (p.scaled_eq_grown ⟨c, hc⟩).symm)⟩

/-- A sector of an ellipse that begins in an oblique direction, in a box three times as large. -/
theorem pie_scaled :
    ∃ p, pie.outline (4 : ℝ) 2 (.resolve pie.guides [⟨"adj1", "val 2700000"⟩] .one) = .ok p ∧
      pie.outline (3 * 4 : ℝ) (3 * 2) (.resolve pie.guides [⟨"adj1", "val 2700000"⟩] .one)
        = .ok (p.scaled 3 3) := by
  have htolerance : (tolerance : ℝ) = 1e-9 := rfl
  refine outline_scaled (GuideSet.resolve_declares pie.guides _ .one) three_pos ?_
  intro _ _ _
  rw [htolerance]
  norm_num

end Kind

end ShapeOutline
