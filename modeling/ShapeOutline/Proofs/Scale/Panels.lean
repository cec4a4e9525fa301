import Mathlib
import ShapeOutline.Proofs.Scale.Formula
import ShapeOutline.Preset.Bracket
import ShapeOutline.Preset.Banner
import ShapeOutline.Preset.Callout

/-!
# Brackets, banners and callouts at another size

The formulas of brackets and braces, ribbons, scrolls and waves, and speech bubbles are homogeneous.
Whether a strip is shifted to the left, and which side of a bubble its wedge leaves, is the same at
every size.
-/

namespace ShapeOutline.Preset

open Exact

-- literals are those that formulas have
attribute [local instance] Scalar.literal

variable (r : Ratio) (f : Frame ℝ)

/-! ## Brackets and braces -/

namespace Bracket

@[simp] theorem curveHeight_grown :
    curveHeight (f.grown r) = (curveHeight f).map (grown r) := by
  simp [curveHeight]

@[simp] theorem braceParts_grown :
    braceParts (f.grown r) = (braceParts f).map (grownPair r) := by
  simp [braceParts]

@[simp] theorem leftBracket_homogeneous : Homogeneous false leftBracket := by
  intro r f _
  simp [leftBracket]

@[simp] theorem rightBracket_homogeneous : Homogeneous false rightBracket := by
  intro r f _
  simp [rightBracket]

@[simp] theorem leftBrace_homogeneous : Homogeneous false leftBrace := by
  intro r f _
  simp [leftBrace]

@[simp] theorem rightBrace_homogeneous : Homogeneous false rightBrace := by
  intro r f _
  simp [rightBrace]

@[simp] theorem bracketPair_homogeneous : Homogeneous false bracketPair := by
  intro r f _
  simp [bracketPair]

@[simp] theorem bracePair_homogeneous : Homogeneous false bracePair := by
  intro r f _
  simp [bracePair]

end Bracket

/-! ## Banners -/

namespace Banner

@[simp] theorem ribbonDown_homogeneous : Homogeneous false ribbonDown := by
  intro r f _
  simp [ribbonDown]

@[simp] theorem ribbonUp_homogeneous : Homogeneous false ribbonUp :=
  ribbonDown_homogeneous.flipped false true

@[simp] theorem verticalScroll_homogeneous : Homogeneous false verticalScroll := by
  intro r f _
  simp [verticalScroll]

@[simp] theorem horizontalScroll_homogeneous : Homogeneous false horizontalScroll :=
  verticalScroll_homogeneous.transposed

/-- The measures of a larger wave. -/
@[simp] def Wave.grown (v : Wave ℝ) : Wave ℝ :=
  ⟨ShapeOutline.grown r v.amplitude, ShapeOutline.grown r v.reach, ShapeOutline.grown r v.topLeft,
    ShapeOutline.grown r v.topRight, ShapeOutline.grown r v.bottomLeft,
    ShapeOutline.grown r v.bottomRight⟩

@[simp] theorem wave_grown (limit : ℝ) :
    wave (f.grown r) limit = (wave f limit).map (Wave.grown r) := by
  simp [wave]

@[simp] theorem singleWave_homogeneous : Homogeneous false singleWave := by
  intro r f _
  simp [singleWave]

@[simp] theorem doubleWave_homogeneous : Homogeneous false doubleWave := by
  intro r f _
  simp [doubleWave]

end Banner

/-! ## Speech bubbles -/

namespace Callout

@[simp] theorem tipOffset_grown : tipOffset (f.grown r) = (tipOffset f).map (grownPair r) := by
  simp [tipOffset]

section

variable (x y z : ℝ)

@[simp] theorem whenPositive_grown : whenPositive (grown r x) y z = whenPositive x y z := by
  simp [whenPositive]

@[simp] theorem whenPositive_grown_grown :
    whenPositive x (grown r y) (grown r z) = grown r (whenPositive x y z) := by
  simp [whenPositive]

@[simp] theorem whenPositive_zero_grown :
    whenPositive x 0 (grown r z) = grown r (whenPositive x 0 z) := by
  simp [whenPositive]

@[simp] theorem whenPositive_grown_zero :
    whenPositive x (grown r y) 0 = grown r (whenPositive x y 0) := by
  simp [whenPositive]

end

/-- The wedge of a larger bubble. -/
def Wedge.grown (v : Wedge ℝ) : Wedge ℝ :=
  ⟨ShapeOutline.grown r v.x1, ShapeOutline.grown r v.x2, ShapeOutline.grown r v.y1,
    ShapeOutline.grown r v.y2, grownPair r v.left, grownPair r v.top, grownPair r v.right,
    grownPair r v.bottom⟩

@[simp] theorem wedge_grown (dx dy : ℝ) :
    wedge (f.grown r) (grown r dx) (grown r dy) = (wedge f dx dy).grown r := by
  simp [wedge, Wedge.grown]

@[simp] theorem Wedge.outline_grown (v : Wedge ℝ) (w h radius : ℝ) :
    (v.outline w h radius).grown r
      = (v.grown r).outline (ShapeOutline.grown r w) (ShapeOutline.grown r h)
          (ShapeOutline.grown r radius) := by
  have hrounded : decide (0 < ShapeOutline.grown r radius) = decide (0 < radius) := by simp
  unfold outline
  rw [hrounded]
  cases decide (0 < radius) <;> simp [grown]

@[simp] theorem wedgeRect_homogeneous : Homogeneous false wedgeRect := by
  intro r f _
  simp [wedgeRect]

@[simp] theorem wedgeRoundRect_homogeneous : Homogeneous false wedgeRoundRect := by
  intro r f _
  simp [wedgeRoundRect]

@[simp] theorem wedgeEllipse_homogeneous : Homogeneous true wedgeEllipse := by
  intro r f h
  simp [wedgeEllipse, h rfl]

@[simp] theorem cloud_grows : Grows cloud :=
  fun r f => Path.drawnIn_grown r f.w f.h 43200 43200 rfl

@[simp] theorem cloudCallout_homogeneous : Homogeneous false cloudCallout := by
  intro r f _
  simp [cloudCallout, cloud_grows r f]

theorem mapM_grown {β : Type} (point : β → Guided (ℝ × ℝ)) (names : List β) :
    (names.mapM fun b => (point b).map (grownPair r))
      = (names.mapM point).map (List.map (grownPair r)) := by
  induction names with
  | nil => rfl
  | cons b names ih =>
    rw [List.mapM_cons, List.mapM_cons, ih]
    simp

theorem leader_grown (points : ℕ) :
    leader (f.grown r) points = (leader f points).map (List.map (grownPair r)) := by
  unfold leader
  rw [← mapM_grown]
  simp

@[simp] theorem boxed_homogeneous (points : ℕ) (accent : Bool) :
    Homogeneous false (boxed points accent) := by
  intro r f _
  unfold boxed
  rw [leader_grown]
  cases leader f points with
  | error e => rfl
  | ok line => rcases accent with _ | _ <;> rcases line with _ | ⟨first, line⟩ <;> simp

end Callout

end ShapeOutline.Preset
