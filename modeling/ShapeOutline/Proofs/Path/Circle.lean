import Mathlib
import ShapeOutline.Proofs.Path.Direction

/-!
# Symmetries of the circle

Sine and cosine of an angle in degrees come from a table along the axes and from the functions elsewhere. Both
are the coordinates of one point of the unit circle, and so an angle that is reflected, or is full turns
further on, has the reflected point or the same one, on either side of the shortcut.

* `sinCos_half_turns`, `sinCos_quarter_past_half_turns`: the points on the axes, after any number of turns and
  in either sense;
* `sinCos_symmetries`: the point of an angle, and those of its mirrored and turned angles.
-/

namespace ShapeOutline

/-! ## Along the axes -/

/-- Whole numbers of half turns lead right and left in turn. -/
theorem sinCos_half_turns (m : ℤ) : sinCos (180 * m : ℝ) = (0, (-1) ^ m) := by
  have hangle : (180 * m : ℝ) * (Real.pi / 180) = m * Real.pi := by ring
  rw [sinCos_eq, hangle, Real.sin_int_mul_pi, Real.cos_int_mul_pi]

/-- A quarter turn more leads down and up in turn. -/
theorem sinCos_quarter_past_half_turns (m : ℤ) : sinCos (180 * m + 90 : ℝ) = ((-1) ^ m, 0) := by
  have hsub : sinCos (90 - -(180 * m : ℝ)) = ((-1) ^ m, -0) := by
    rw [sinCos_quarter_turn_sub, sinCos_neg, sinCos_half_turns]
  rwa [sub_neg_eq_add, add_comm, neg_zero] at hsub

/-! ## Everywhere -/

/-- Sine and cosine of every angle are those of the circle. The opposite angle has the opposite sine, the
angle that fills a half turn the opposite cosine, the angle that fills a quarter turn has the two exchanged,
and full turns change nothing. The multiples of a quarter turn, and they alone, lie along an axis; there the
two are a zero and a one, whose sign changes with every half turn. -/
theorem sinCos_symmetries :
    (∀ d : ℝ, ∃ s c : ℝ, sinCos d = (s, c) ∧
      s ^ 2 + c ^ 2 = 1 ∧ s = Real.sin (d * (Real.pi / 180)) ∧ c = Real.cos (d * (Real.pi / 180)) ∧
      sinCos (-d) = (-s, c) ∧ sinCos (180 - d) = (s, -c) ∧ sinCos (90 - d) = (c, s) ∧
      (∀ k : ℤ, sinCos (d + 360 * k) = (s, c)) ∧
      (s * c = 0 ↔ ∃ n : ℤ, d = 90 * n)) ∧
    ∀ m : ℤ, sinCos (180 * m : ℝ) = (0, (-1) ^ m) ∧ sinCos (180 * m + 90 : ℝ) = ((-1) ^ m, 0) := by
  refine ⟨fun d => ⟨(sinCos d).1, (sinCos d).2, rfl, sinCos_sq_add_sq d, ?_, ?_, sinCos_neg d,
    sinCos_half_turn_sub d, sinCos_quarter_turn_sub d, sinCos_add_turns d, sinCos_mul_eq_zero_iff d⟩,
    fun m => ⟨sinCos_half_turns m, sinCos_quarter_past_half_turns m⟩⟩
  · rw [sinCos_eq]
  · rw [sinCos_eq]

end ShapeOutline
