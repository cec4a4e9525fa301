import Mathlib
import ShapeOutline.Proofs.Scale.Drawing

/-!
# Angles at another size

An ellipse keeps its form when it grows, and so the angle at which its point is seen in some direction
stays as it is. The conversion of angles treats an ellipse as a circle when its radii are close to
each other, though, and how close they are changes with the size. It does not matter for circles, nor
for directions along the axes.

* `SameRoundness`: an ellipse and the grown one are taken for circles alike;
* `Quartered`: directions along the axes;
* `parametricAngle_grown`, `parametricAngle_quartered`: conversions that stay;
* `Instruction.keepsAngles_of_sameRoundness`, ...: what this says of arcs.
-/

namespace ShapeOutline

open Exact
open Scalar (tolerance)

variable (r : Ratio)

/-! ## Ellipses that are nearly circles -/

/-- An ellipse and the grown one are either both taken for circles or both not. Radii that span no
ellipse do not matter. -/
def SameRoundness (rx ry : ℝ) : Prop :=
  0 < rx → 0 < ry →
    (|rx - ry| < (tolerance : ℝ) ↔ |grown r rx - grown r ry| < (tolerance : ℝ))

@[simp] theorem sameRoundness_self (d : ℝ) : SameRoundness r d d := by
  intro _ _
  rw [sub_self, sub_self]

theorem parametricAngle_grown {rx ry : ℝ} (h : SameRoundness r rx ry) (deg : ℝ) :
    parametricAngle deg (grown r rx) (grown r ry) = parametricAngle deg rx ry := by
  have hpos (x : ℝ) : grown r x ≤ 0 ↔ x ≤ 0 := by
    rw [← not_lt, ← not_lt]
    exact not_congr (mul_pos_iff_of_pos_right r.pos)
  -- the conversion is made at both sizes or at neither
  have htests (whole : Prop) :
      (grown r rx ≤ 0 ∨ grown r ry ≤ 0 ∨ |grown r rx - grown r ry| < (tolerance : ℝ) ∨ whole)
        ↔ (rx ≤ 0 ∨ ry ≤ 0 ∨ |rx - ry| < (tolerance : ℝ) ∨ whole) := by
    rw [hpos, hpos]
    by_cases hx : rx ≤ 0
    · simp only [hx, true_or]
    · by_cases hy : ry ≤ 0
      · simp only [hy, true_or, or_true]
      · rw [h (not_le.mp hx) (not_le.mp hy)]
  have hdirection (x y : ℝ) : Scalar.degrees (Scalar.atan2 (grown r y) (grown r x))
      = Scalar.degrees (Scalar.atan2 y x) := direction_grown r x y
  rw [← literal_zero] at htests
  unfold parametricAngle
  simp only [grown_mul, hdirection]
  exact if_congr (htests _) rfl rfl

/-! ## Directions along the axes -/

/-- A whole number of quarter turns. -/
def Quartered (deg : ℝ) : Prop := ∃ n : ℤ, deg = 90 * n

namespace Quartered

-- literals are those that formulas have
attribute [local instance] Scalar.literal

theorem add {a b : ℝ} (ha : Quartered a) (hb : Quartered b) : Quartered (a + b) := by
  obtain ⟨m, rfl⟩ := ha
  obtain ⟨n, rfl⟩ := hb
  exact ⟨m + n, by push_cast; ring⟩

@[simp] theorem neg_iff {a : ℝ} : Quartered (-a) ↔ Quartered a := by
  have hneg {b : ℝ} (hb : Quartered b) : Quartered (-b) := by
    obtain ⟨n, rfl⟩ := hb
    exact ⟨-n, by push_cast; ring⟩
  exact ⟨fun h => neg_neg a ▸ hneg h, hneg⟩

/-- What a formula names in whole quarter turns. -/
theorem literal (n : ℕ) : Quartered (OfNat.ofNat (90 * n)) :=
  ⟨n, by rw [literal_eq]; push_cast; rfl⟩

@[simp] theorem zero : Quartered 0 := literal 0

@[simp] theorem quarter : Quartered 90 := literal 1

@[simp] theorem half : Quartered 180 := literal 2

@[simp] theorem threeQuarters : Quartered 270 := literal 3

@[simp] theorem full : Quartered 360 := literal 4

theorem isWhole {deg : ℝ} (h : Quartered deg) : Scalar.isWhole (deg / 90) = true := by
  obtain ⟨n, rfl⟩ := h
  have hdiv : 90 * (n : ℝ) / 90 = n := by
    rw [literal_eq]
    push_cast
    exact mul_div_cancel_left₀ _ (by norm_num)
  have htruncate : Exact.truncate (n : ℝ) = n := by
    rw [Exact.truncate, Int.floor_intCast, Int.ceil_intCast, ite_self]
  rw [hdiv]
  show ((n : ℝ) - (Exact.truncate (n : ℝ) : ℝ) == 0) = true
  rw [htruncate, sub_self, beq_iff, literal_zero]

end Quartered

/-- Directions along the axes are not converted. -/
theorem parametricAngle_quartered {deg : ℝ} (h : Quartered deg) (rx ry : ℝ) :
    parametricAngle deg rx ry = deg :=
  if_pos (.inr (.inr (.inr h.isWhole)))

/-! ## Arcs -/

namespace Instruction

variable {wr hr start sweep : ℝ}

@[simp] theorem keepsAngles_of_sameRoundness (h : SameRoundness r wr hr) :
    (arcTo wr hr start sweep).KeepsAngles r :=
  fun deg _ => parametricAngle_grown r h deg

@[simp] theorem keepsAngles_quartered (hstart : Quartered start) (hsweep : Quartered sweep) :
    (arcTo wr hr start sweep).KeepsAngles r := by
  have hkeeps {deg : ℝ} (h : Quartered deg) :
      parametricAngle deg (ShapeOutline.grown r wr) (ShapeOutline.grown r hr)
        = parametricAngle deg wr hr := by
    rw [parametricAngle_quartered h, parametricAngle_quartered h]
  exact List.forall_mem_cons.mpr
    ⟨hkeeps hstart, List.forall_mem_singleton.mpr (hkeeps (hstart.add hsweep))⟩

end Instruction

end ShapeOutline
