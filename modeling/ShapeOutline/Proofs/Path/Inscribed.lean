import Mathlib
import ShapeOutline.Preset.Frame
import ShapeOutline.Proofs.Path.Direction
import ShapeOutline.Proofs.Pen.Track

/-!
# The ellipse that touches the sides of a box

Round outlines are drawn along the ellipse that touches the sides of the box, or with its radii.

* `OnInscribed`, `inscribedPoint`: the ellipse and its points;
* `arcFrom`: an arc with its radii from one of its points, at the angle of that point or another one;
* `arcFrom_center_eq_iff`: whether such an arc is on the ellipse;
* `Frame.halves`, `sinCos_add_sweep`: how formulas name the ellipse and the ends of its arcs.
-/

namespace ShapeOutline

/-! ## The ellipse -/

/-- The point lies on the ellipse that touches the sides of a box. -/
def OnInscribed (w h : ℝ) (p : Point ℝ) : Prop :=
  ((p.x - w / 2) / (w / 2)) ^ 2 + ((p.y - h / 2) / (h / 2)) ^ 2 = 1

/-- The point at a parametric angle of the ellipse that touches the sides of a box. -/
noncomputable def inscribedPoint (w h deg : ℝ) : Point ℝ :=
  ellipsePoint ⟨w / 2, h / 2⟩ (w / 2) (h / 2) deg

variable {w h : ℝ}

/-- Measured by the radii, the ellipse is a circle. -/
theorem onInscribed_iff (hw : 0 < w) (hh : 0 < h) (x y : ℝ) :
    OnInscribed w h ⟨w / 2 + w / 2 * x, h / 2 + h / 2 * y⟩ ↔ x ^ 2 + y ^ 2 = 1 := by
  have hx : (w / 2 + w / 2 * x - w / 2) / (w / 2) = x := by
    rw [add_sub_cancel_left, mul_div_cancel_left₀ _ (half_pos hw).ne']
  have hy : (h / 2 + h / 2 * y - h / 2) / (h / 2) = y := by
    rw [add_sub_cancel_left, mul_div_cancel_left₀ _ (half_pos hh).ne']
  unfold OnInscribed
  rw [hx, hy]

theorem onInscribed_inscribedPoint (hw : 0 < w) (hh : 0 < h) (deg : ℝ) :
    OnInscribed w h (inscribedPoint w h deg) := by
  refine (onInscribed_iff hw hh _ _).mpr ?_
  rw [add_comm]
  exact sinCos_sq_add_sq deg

/-- Points of the ellipse at angles that are not full turns apart are different. -/
theorem inscribedPoint_eq_iff (hw : 0 < w) (hh : 0 < h) (d e : ℝ) :
    inscribedPoint w h d = inscribedPoint w h e ↔ sinCos d = sinCos e := by
  constructor
  · intro hsame
    have hx : w / 2 + w / 2 * (sinCos d).2 = w / 2 + w / 2 * (sinCos e).2 := congrArg Point.x hsame
    have hy : h / 2 + h / 2 * (sinCos d).1 = h / 2 + h / 2 * (sinCos e).1 := congrArg Point.y hsame
    have hcos := mul_left_cancel₀ (half_pos hw).ne' (add_left_cancel hx)
    have hsin := mul_left_cancel₀ (half_pos hh).ne' (add_left_cancel hy)
    exact Prod.ext hsin hcos
  · intro hsame
    rw [inscribedPoint, inscribedPoint, ellipsePoint, ellipsePoint, hsame]

/-! ## Arcs through its points -/

/-- The arc with the radii of the ellipse that begins at the point of the ellipse at angle `t`, as if this
angle was `start`. -/
noncomputable def arcFrom (w h t start stop : ℝ) : Arc ℝ :=
  ⟨inscribedPoint w h t - ellipsePoint Point.origin (w / 2) (h / 2) start, w / 2, h / 2, start, stop⟩

section

variable {s t start stop : ℝ}

theorem arcFrom_startPoint : (arcFrom w h t start stop).startPoint = inscribedPoint w h t :=
  Pen.ellipsePoint_sub _ _ _ _

/-- The centre of the arc, by coordinates. -/
theorem arcFrom_center : (arcFrom w h t start stop).center =
    ⟨w / 2 + w / 2 * ((sinCos t).2 - (sinCos start).2),
      h / 2 + h / 2 * ((sinCos t).1 - (sinCos start).1)⟩ := by
  show inscribedPoint w h t - ellipsePoint Point.origin (w / 2) (h / 2) start = _
  rw [ellipsePoint_origin]
  ext
  · show w / 2 + w / 2 * (sinCos t).2 - w / 2 * (sinCos start).2 = _
    ring
  · show h / 2 + h / 2 * (sinCos t).1 - h / 2 * (sinCos start).1 = _
    ring

/-- The arc is on the ellipse exactly when it begins at the angle of its point. -/
theorem arcFrom_center_eq_iff (hw : 0 < w) (hh : 0 < h) :
    (arcFrom w h t start stop).center = ⟨w / 2, h / 2⟩ ↔ sinCos start = sinCos t := by
  rw [arcFrom_center, Point.mk.injEq, add_eq_left, add_eq_left,
    mul_eq_zero_iff_left (half_pos hw).ne', mul_eq_zero_iff_left (half_pos hh).ne', sub_eq_zero,
    sub_eq_zero]
  constructor
  · rintro ⟨hcos, hsin⟩
    exact Prod.ext hsin.symm hcos.symm
  · intro hsame
    rw [hsame]
    exact ⟨rfl, rfl⟩

/-- An arc that begins at the angle of another point is shifted by the way from that point to its own. -/
theorem arcFrom_center_of_other (hstart : sinCos start = sinCos s) :
    (arcFrom w h t start stop).center
      = ⟨w / 2, h / 2⟩ + (inscribedPoint w h t - inscribedPoint w h s) := by
  rw [arcFrom_center, hstart]
  ext
  · show _ = w / 2 + (w / 2 + w / 2 * (sinCos t).2 - (w / 2 + w / 2 * (sinCos s).2))
    ring
  · show _ = h / 2 + (h / 2 + h / 2 * (sinCos t).1 - (h / 2 + h / 2 * (sinCos s).1))
    ring

/-- As far behind one point of the ellipse as another point is before it, by coordinates. -/
theorem inscribedPoint_reflected (w h s t : ℝ) :
    inscribedPoint w h t + (inscribedPoint w h t - inscribedPoint w h s)
      = ⟨w / 2 + w / 2 * (2 * (sinCos t).2 - (sinCos s).2),
        h / 2 + h / 2 * (2 * (sinCos t).1 - (sinCos s).1)⟩ := by
  ext
  · show w / 2 + w / 2 * (sinCos t).2
      + (w / 2 + w / 2 * (sinCos t).2 - (w / 2 + w / 2 * (sinCos s).2)) = _
    ring
  · show h / 2 + h / 2 * (sinCos t).1
      + (h / 2 + h / 2 * (sinCos t).1 - (h / 2 + h / 2 * (sinCos s).1)) = _
    ring

/-- When it ends at the angle of its own point, it ends as far behind this point as the other one is before
it. -/
theorem arcFrom_pointAt_of_other (hstart : sinCos start = sinCos s) (hstop : sinCos stop = sinCos t) :
    (arcFrom w h t start stop).pointAt stop
      = inscribedPoint w h t + (inscribedPoint w h t - inscribedPoint w h s) := by
  rw [Arc.pointAt_eq, arcFrom_center, hstart, hstop, inscribedPoint_reflected]
  ext
  · show w / 2 + w / 2 * ((sinCos t).2 - (sinCos s).2) + w / 2 * (sinCos t).2 = _
    ring
  · show h / 2 + h / 2 * ((sinCos t).1 - (sinCos s).1) + h / 2 * (sinCos t).1 = _
    ring

/-- Two points of a circle that are at no distance from each other are the same. -/
theorem sinCos_eq_of_distance
    (hdistance : ((sinCos t).1 - (sinCos s).1) ^ 2 + ((sinCos t).2 - (sinCos s).2) ^ 2 = 0) :
    sinCos t = sinCos s := by
  have hsin := sq_nonneg ((sinCos t).1 - (sinCos s).1)
  have hcos := sq_nonneg ((sinCos t).2 - (sinCos s).2)
  have hsin' : ((sinCos t).1 - (sinCos s).1) ^ 2 = 0 := by linarith
  have hcos' : ((sinCos t).2 - (sinCos s).2) ^ 2 = 0 := by linarith
  rw [sq_eq_zero_iff, sub_eq_zero] at hsin' hcos'
  exact Prod.ext hsin' hcos'

/-- As far behind a point of the ellipse as another point is before it, there is no point of the ellipse. -/
theorem not_onInscribed_reflected (hw : 0 < w) (hh : 0 < h) (hne : sinCos t ≠ sinCos s) :
    ¬OnInscribed w h (inscribedPoint w h t + (inscribedPoint w h t - inscribedPoint w h s)) := by
  rw [inscribedPoint_reflected, onInscribed_iff hw hh]
  intro hon
  have ht := sinCos_sq_add_sq t
  have hs := sinCos_sq_add_sq s
  refine hne (sinCos_eq_of_distance ?_)
  linear_combination (1 / 2) * hon + (1 / 2) * hs - ht

end

/-! ## Formulas -/

/-- The centre and the radii of the ellipse that touches the sides of a frame. -/
theorem Frame.halves (f : Frame ℝ) :
    f.hc = f.w / 2 ∧ f.vc = f.h / 2 ∧ f.wd2 = f.w / 2 ∧ f.hd2 = f.h / 2 := by
  rw [hc, vc, wd2, hd2, Exact.literal_ofNat 2]
  exact ⟨rfl, rfl, rfl, rfl⟩

/-- A sweep from one direction to another, or once more around to it, leads there. -/
theorem sinCos_add_sweep {d e sweep : ℝ} (h : sweep = e - d ∨ sweep = e - d + 360) :
    sinCos (d + sweep) = sinCos e := by
  rcases h with rfl | rfl
  · rw [add_sub_cancel]
  · have hturn := sinCos_add_turns e 1
    rw [Int.cast_one, mul_one] at hturn
    rw [← add_assoc, add_sub_cancel, hturn]

end ShapeOutline
