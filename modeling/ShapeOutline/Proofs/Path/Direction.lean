import Mathlib
import ShapeOutline.Proofs.Path.Pieces

/-!
# The directions of points

From the centre of an ellipse, its point at a parametric angle is seen in some direction, and the
conversion of angles finds the parametric angle for a direction. It takes an ellipse for a circle when its
radii are close to each other, and is exact otherwise.

* `sinCos_mul_eq_zero_iff`: only the multiples of a quarter turn lie along an axis;
* `Point.LiesToward`: a point is seen from the origin in a direction;
* `Point.liesToward_direction`, `Point.LiesToward.sinCos_eq`: the direction of a point, and that there is no
  other within a turn;
* `sinCos_eq_of_liesToward`, `sinCos_eq_or_of_exchanged`: points of an ellipse that are seen alike;
* `ConvertsExactly`: the radii are equal or differ enough;
* `ellipsePoint_liesToward`: the point for a direction is seen in it;
* `sinCos_parametricAngle`: converting the direction of a point gives its parametric angle.
-/

namespace ShapeOutline

open Scalar (tolerance direction)

/-! ## Directions -/

theorem sinCos_sq_add_sq (d : ℝ) : (sinCos d).1 ^ 2 + (sinCos d).2 ^ 2 = 1 := by
  rw [sinCos_eq]
  exact Real.sin_sq_add_cos_sq _

/-- The points on the axes are those of the multiples of a quarter turn. -/
theorem sinCos_mul_eq_zero_iff (deg : ℝ) :
    (sinCos deg).1 * (sinCos deg).2 = 0 ↔ ∃ n : ℤ, deg = 90 * n := by
  have hpi := Real.pi_ne_zero
  -- the product is half the sine of the doubled angle
  have hdouble : (sinCos deg).1 * (sinCos deg).2 = Real.sin (2 * (deg * (Real.pi / 180))) / 2 := by
    rw [sinCos_eq, Real.sin_two_mul]
    ring
  rw [hdouble, div_eq_zero_iff, or_iff_left two_ne_zero, Real.sin_eq_zero_iff]
  refine exists_congr fun n => ?_
  constructor
  · intro hn
    have hscaled : deg * Real.pi = 90 * n * Real.pi := by linarith
    exact mul_right_cancel₀ hpi hscaled
  · rintro rfl
    ring

/-- Sine and cosine that are positive multiples of others are the same. -/
theorem sinCos_eq_of_mul {d e k : ℝ} (hk : 0 < k) (hsin : (sinCos e).1 = k * (sinCos d).1)
    (hcos : (sinCos e).2 = k * (sinCos d).2) : sinCos e = sinCos d := by
  have hd := sinCos_sq_add_sq d
  have he := sinCos_sq_add_sq e
  have hsq : k ^ 2 = 1 := by
    rw [hsin, hcos] at he
    linear_combination he - k ^ 2 * hd
  obtain rfl : k = 1 := (pow_eq_one_iff_of_nonneg hk.le two_ne_zero).mp hsq
  rw [one_mul] at hsin hcos
  exact Prod.ext hsin hcos

namespace Point

/-- The point is seen from the origin in a direction, given in degrees. -/
def LiesToward (p : Point ℝ) (deg : ℝ) : Prop :=
  ∃ r, 0 < r ∧ p = ⟨r * (sinCos deg).2, r * (sinCos deg).1⟩

variable {p : Point ℝ} {d e : ℝ}

/-- What is not at the origin lies in its direction. -/
theorem liesToward_direction {x y : ℝ} (h : (⟨x, y⟩ : ℂ) ≠ 0) :
    (⟨x, y⟩ : Point ℝ).LiesToward (direction x y) := by
  have hnorm : (0 : ℝ) < ‖(⟨x, y⟩ : ℂ)‖ := norm_pos_iff.mpr h
  have hangle : direction x y * (Real.pi / 180) = Complex.arg ⟨x, y⟩ := by
    show Complex.arg ⟨x, y⟩ * (_ / Real.pi) * (Real.pi / 180) = _
    rw [Exact.literal_eq]
    have hpi := Real.pi_ne_zero
    field_simp
  refine ⟨_, hnorm, ?_⟩
  rw [sinCos_eq, hangle, Complex.sin_arg, Complex.cos_arg h]
  ext
  · exact (mul_div_cancel₀ x hnorm.ne').symm
  · exact (mul_div_cancel₀ y hnorm.ne').symm

/-- A point is seen in one direction only, full turns apart. -/
theorem LiesToward.sinCos_eq (hd : p.LiesToward d) (he : p.LiesToward e) : sinCos d = sinCos e := by
  obtain ⟨r, hr, rfl⟩ := hd
  obtain ⟨s, hs, hp⟩ := he
  rw [Point.mk.injEq] at hp
  obtain ⟨hcos, hsin⟩ := hp
  refine sinCos_eq_of_mul (div_pos hs hr) ?_ ?_
  · rw [div_mul_eq_mul_div, ← hsin, mul_div_cancel_left₀ _ hr.ne']
  · rw [div_mul_eq_mul_div, ← hcos, mul_div_cancel_left₀ _ hr.ne']

theorem LiesToward.of_sinCos_eq (hd : p.LiesToward d) (h : sinCos d = sinCos e) :
    p.LiesToward e := by
  unfold LiesToward
  rw [← h]
  exact hd

end Point

/-! ## Points of an ellipse -/

theorem ellipsePoint_origin (rx ry deg : ℝ) :
    ellipsePoint Point.origin rx ry deg = ⟨rx * (sinCos deg).2, ry * (sinCos deg).1⟩ := by
  have hzero : (Point.origin : Point ℝ) = ⟨0, 0⟩ := by
    rw [Point.origin, Exact.literal_zero]
  rw [hzero]
  exact congrArg₂ Point.mk (zero_add _) (zero_add _)

variable {rx ry : ℝ}

/-- An ellipse has one point in each direction. -/
theorem sinCos_eq_of_liesToward (hrx : 0 < rx) (hry : 0 < ry) {s t d : ℝ}
    (hs : (ellipsePoint Point.origin rx ry s).LiesToward d)
    (ht : (ellipsePoint Point.origin rx ry t).LiesToward d) : sinCos s = sinCos t := by
  obtain ⟨r, hr, hps⟩ := hs
  obtain ⟨r', hr', hpt⟩ := ht
  rw [ellipsePoint_origin, Point.mk.injEq] at hps hpt
  -- the two points are positive multiples of each other
  refine sinCos_eq_of_mul (div_pos hr hr') ?_ ?_
  · refine mul_left_cancel₀ hry.ne' ?_
    rw [hps.2, mul_left_comm, hpt.2, ← mul_assoc, div_mul_cancel₀ _ hr'.ne']
  · refine mul_left_cancel₀ hrx.ne' ?_
    rw [hps.1, mul_left_comm, hpt.1, ← mul_assoc, div_mul_cancel₀ _ hr'.ne']

/-- The point of an ellipse is not at its centre. -/
theorem ellipsePoint_liesToward_direction (hrx : 0 < rx) (hry : 0 < ry) (t : ℝ) :
    (ellipsePoint Point.origin rx ry t).LiesToward
      (direction (rx * (sinCos t).2) (ry * (sinCos t).1)) := by
  rw [ellipsePoint_origin]
  refine Point.liesToward_direction fun hzero => ?_
  have hunit := sinCos_sq_add_sq t
  have hcos : (sinCos t).2 = 0 := (mul_eq_zero_iff_left hrx.ne').mp (congrArg Complex.re hzero)
  have hsin : (sinCos t).1 = 0 := (mul_eq_zero_iff_left hry.ne').mp (congrArg Complex.im hzero)
  rw [hcos, hsin] at hunit
  norm_num at hunit

/-- Two points of an ellipse, each seen in the direction that is the angle of the other. They are the same
point, or the ellipse is a circle. -/
theorem sinCos_eq_or_of_exchanged (hrx : 0 < rx) (hry : 0 < ry) {t u : ℝ}
    (ht : (ellipsePoint Point.origin rx ry t).LiesToward u)
    (hu : (ellipsePoint Point.origin rx ry u).LiesToward t) : sinCos u = sinCos t ∨ rx = ry := by
  obtain ⟨r, hr, hpt⟩ := ht
  obtain ⟨r', -, hpu⟩ := hu
  rw [ellipsePoint_origin, Point.mk.injEq] at hpt hpu
  obtain ⟨htcos, htsin⟩ := hpt
  obtain ⟨hucos, husin⟩ := hpu
  -- stretched twice, the first point comes back to its direction, along each axis
  have hx : (rx ^ 2 - r * r') * (sinCos t).2 = 0 := by linear_combination rx * htcos + r * hucos
  have hy : (ry ^ 2 - r * r') * (sinCos t).1 = 0 := by linear_combination ry * htsin + r * husin
  rcases mul_eq_zero.mp hx with hxx | hcos
  · rcases mul_eq_zero.mp hy with hyy | hsin
    · right
      refine (sq_eq_sq₀ hrx.le hry.le).mp ?_
      linarith
    · left
      have hsin' : (sinCos u).1 = 0 := by
        rw [hsin, mul_zero] at husin
        exact (mul_eq_zero_iff_left hry.ne').mp husin
      refine sinCos_eq_of_mul (div_pos hrx hr) ?_ ?_
      · rw [hsin', hsin, mul_zero]
      · rw [div_mul_eq_mul_div, htcos, mul_div_cancel_left₀ _ hr.ne']
  · left
    have hcos' : (sinCos u).2 = 0 := by
      rw [hcos, mul_zero] at hucos
      exact (mul_eq_zero_iff_left hrx.ne').mp hucos
    refine sinCos_eq_of_mul (div_pos hry hr) ?_ ?_
    · rw [div_mul_eq_mul_div, htsin, mul_div_cancel_left₀ _ hr.ne']
    · rw [hcos', hcos, mul_zero]

/-! ## Converting directions -/

/-- The radii are those of a circle, or differ enough for an ellipse not to be taken for one. -/
def ConvertsExactly (rx ry : ℝ) : Prop := rx = ry ∨ (tolerance : ℝ) ≤ |rx - ry|

/-- The conversion leaves the directions of a near-circle as they are. -/
theorem parametricAngle_of_near (h : |rx - ry| < (tolerance : ℝ)) (deg : ℝ) :
    parametricAngle deg rx ry = deg :=
  if_pos (.inr (.inr (.inl h)))

/-- Along an axis, an ellipse has its point where a circle has it. -/
theorem ellipsePoint_liesToward_of_isWhole (hrx : 0 < rx) (hry : 0 < ry) {deg : ℝ}
    (h : Scalar.isWhole (deg / @OfNat.ofNat ℝ 90 (Scalar.literal 90)) = true) :
    (ellipsePoint Point.origin rx ry deg).LiesToward deg := by
  obtain ⟨n, hn⟩ := Scalar.exists_int_of_isWhole h
  have hquarters : deg = 90 * n := by
    rw [← hn, Exact.literal_ofNat]
    exact (mul_div_cancel₀ deg (by norm_num)).symm
  have haxis := (sinCos_mul_eq_zero_iff deg).mpr ⟨n, hquarters⟩
  rw [ellipsePoint_origin]
  rcases mul_eq_zero.mp haxis with hsin | hcos
  · refine ⟨rx, hrx, ?_⟩
    rw [hsin, mul_zero, mul_zero]
  · refine ⟨ry, hry, ?_⟩
    rw [hcos, mul_zero, mul_zero]

/-- The point of an ellipse for a direction is seen in that direction. -/
theorem ellipsePoint_liesToward (hrx : 0 < rx) (hry : 0 < ry) (hexact : ConvertsExactly rx ry)
    (deg : ℝ) : (ellipsePoint Point.origin rx ry (parametricAngle deg rx ry)).LiesToward deg := by
  unfold parametricAngle
  rw [Exact.literal_zero]
  split
  · next hshortcut =>
    rcases hshortcut with hflat | hflat | hnear | hwhole
    · exact absurd hflat (not_le.mpr hrx)
    · exact absurd hflat (not_le.mpr hry)
    · -- a near-circle that is converted exactly is a circle
      rcases hexact with rfl | hfar
      · exact ⟨rx, hrx, ellipsePoint_origin rx rx deg⟩
      · exact absurd hnear (not_lt.mpr hfar)
    · exact ellipsePoint_liesToward_of_isWhole hrx hry hwhole
  · -- with the radii exchanged, the direction of the point is the angle that is sought
    dsimp only
    obtain ⟨n, hn, hpoint⟩ := ellipsePoint_liesToward_direction hry hrx deg
    have hturns (t x : ℝ) :
        sinCos (t + @OfNat.ofNat ℝ 360 (Scalar.literal 360) * Scalar.round x) = sinCos t := by
      rw [Exact.literal_eq]
      exact sinCos_add_turns t (Exact.roundAway x)
    rw [ellipsePoint_origin, Point.mk.injEq] at hpoint
    obtain ⟨hcos, hsin⟩ := hpoint
    refine ⟨rx * ry / n, div_pos (mul_pos hrx hry) hn, ?_⟩
    rw [ellipsePoint_origin, hturns]
    show (⟨rx * (sinCos (direction (ry * (sinCos deg).2) (rx * (sinCos deg).1))).2,
      ry * (sinCos (direction (ry * (sinCos deg).2) (rx * (sinCos deg).1))).1⟩ : Point ℝ) = _
    ext
    · show rx * _ = rx * ry / n * _
      rw [div_mul_eq_mul_div, eq_div_iff hn.ne']
      linear_combination -rx * hcos
    · show ry * _ = rx * ry / n * _
      rw [div_mul_eq_mul_div, eq_div_iff hn.ne']
      linear_combination -ry * hsin

/-- The direction of a point of an ellipse is converted to the angle of the point. -/
theorem sinCos_parametricAngle (hrx : 0 < rx) (hry : 0 < ry) (hexact : ConvertsExactly rx ry)
    {t d : ℝ} (h : (ellipsePoint Point.origin rx ry t).LiesToward d) :
    sinCos (parametricAngle d rx ry) = sinCos t :=
  sinCos_eq_of_liesToward hrx hry (ellipsePoint_liesToward hrx hry hexact d) h

end ShapeOutline
