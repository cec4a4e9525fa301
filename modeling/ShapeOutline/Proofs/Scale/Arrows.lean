import Mathlib
import ShapeOutline.Proofs.Scale.Formula
import ShapeOutline.Preset.Connector
import ShapeOutline.Preset.BlockArrow
import ShapeOutline.Preset.ArrowCallout

/-!
# Arrows at another size

The formulas of connectors, block arrows and boxes with arrows are homogeneous. The measures that
several of them share grow with the box.
-/

namespace ShapeOutline.Preset

variable (r : Ratio) (f : Frame ℝ)

/-! ## Connectors -/

namespace Connector

@[simp] theorem chain_grown (points : List (ℝ × ℝ)) :
    (chain points).grown r = chain (points.map (grownPair r)) := by
  simp [chain]

@[simp] theorem line_grows : Grows line := by
  intro r f
  simp [line]

@[simp] theorem lineInverted_grows : Grows lineInverted := by
  intro r f
  simp [lineInverted]

@[simp] theorem bent2_grows : Grows bent2 := by
  intro r f
  simp [bent2]

@[simp] theorem curved2_grows : Grows curved2 := by
  intro r f
  simp [curved2]

@[simp] theorem bent3_homogeneous : Homogeneous false bent3 := by
  intro r f _
  simp [bent3]

@[simp] theorem bent4_homogeneous : Homogeneous false bent4 := by
  intro r f _
  simp [bent4]

@[simp] theorem bent5_homogeneous : Homogeneous false bent5 := by
  intro r f _
  simp [bent5]

@[simp] theorem curved3_homogeneous : Homogeneous false curved3 := by
  intro r f _
  simp [curved3]

@[simp] theorem curved4_homogeneous : Homogeneous false curved4 := by
  intro r f _
  simp [curved4]

@[simp] theorem curved5_homogeneous : Homogeneous false curved5 := by
  intro r f _
  simp [curved5]

end Connector

/-! ## Block arrows -/

namespace BlockArrow

@[simp] theorem shaftAndHead_grown (limit : ℝ) :
    shaftAndHead (f.grown r) (grown r limit) = (shaftAndHead f limit).map (grownPair r) := by
  simp [shaftAndHead]

@[simp] theorem right_homogeneous : Homogeneous false right := by
  intro r f _
  simp [right]

@[simp] theorem left_homogeneous : Homogeneous false left := by
  intro r f _
  simp [left]

@[simp] theorem up_homogeneous : Homogeneous false up := left_homogeneous.transposed

@[simp] theorem down_homogeneous : Homogeneous false down := right_homogeneous.transposed

@[simp] theorem stripedRight_homogeneous : Homogeneous false stripedRight := by
  intro r f _
  simp [stripedRight]

@[simp] theorem notchedRight_homogeneous : Homogeneous false notchedRight := by
  intro r f _
  simp [notchedRight]

@[simp] theorem leftRight_homogeneous : Homogeneous false leftRight := by
  intro r f _
  simp [leftRight]

@[simp] theorem upDown_homogeneous : Homogeneous false upDown := leftRight_homogeneous.transposed

/-- The heads of a larger arrow. -/
@[simp] def Heads.grown (heads : Heads ℝ) : Heads ℝ :=
  ⟨ShapeOutline.grown r heads.length, ShapeOutline.grown r heads.halfWidth,
    ShapeOutline.grown r heads.halfShaft⟩

@[simp] theorem heads_grown (limit : ℝ → ℝ) :
    heads (f.grown r) limit = (heads f limit).map (Heads.grown r) := by
  simp [heads]

@[simp] theorem quad_homogeneous : Homogeneous false quad := by
  intro r f _
  simp [quad]

@[simp] theorem leftRightUp_homogeneous : Homogeneous false leftRightUp := by
  intro r f _
  simp [leftRightUp]

@[simp] theorem leftUp_homogeneous : Homogeneous false leftUp := by
  intro r f _
  simp [leftUp]

@[simp] theorem bentUp_homogeneous : Homogeneous false bentUp := by
  intro r f _
  simp [bentUp]

@[simp] theorem bent_homogeneous : Homogeneous false bent := by
  intro r f _
  simp [bent]

@[simp] theorem uTurn_homogeneous : Homogeneous false uTurn := by
  intro r f _
  simp [uTurn]

end BlockArrow

/-! ## Boxes with arrows -/

namespace ArrowCallout

/-- The measures of a larger box with arrows. -/
@[simp] def Parts.grown (parts : Parts ℝ) : Parts ℝ :=
  ⟨ShapeOutline.grown r parts.halfShaft, ShapeOutline.grown r parts.halfHead,
    ShapeOutline.grown r parts.headLength, ShapeOutline.grown r parts.boxLength⟩

@[simp] theorem parts_grown (heads : ℝ) :
    parts (f.grown r) heads = (parts f heads).map (Parts.grown r) := by
  simp [parts]

@[simp] theorem right_homogeneous : Homogeneous false right := by
  intro r f _
  simp [right]

@[simp] theorem left_homogeneous : Homogeneous false left := by
  intro r f _
  simp [left]

@[simp] theorem up_homogeneous : Homogeneous false up := left_homogeneous.transposed

@[simp] theorem down_homogeneous : Homogeneous false down := right_homogeneous.transposed

@[simp] theorem leftRight_homogeneous : Homogeneous false leftRight := by
  intro r f _
  simp [leftRight]

@[simp] theorem upDown_homogeneous : Homogeneous false upDown := leftRight_homogeneous.transposed

@[simp] theorem quad_homogeneous : Homogeneous false quad := by
  intro r f _
  simp [quad]

end ArrowCallout

end ShapeOutline.Preset
