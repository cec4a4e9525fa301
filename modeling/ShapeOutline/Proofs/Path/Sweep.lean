import Mathlib
import ShapeOutline.Proofs.Pen.Track

/-!
# The clockwise way

An arc of its own takes the clockwise way from one angle to another: nothing between angles that coincide, and
otherwise more than nothing and at most a full turn. Angles that are full turns apart are a full turn apart, and
what is within the tolerance of it is taken for a full turn. So the way leads to the other angle, up to full
turns and the tolerance.

* `clockwiseSweep_cases`: the three outcomes;
* `clockwiseSweep_mem`, `clockwiseSweep_eq_zero_iff`, `clockwiseSweep_congruent`: how long the way is, when it
  is nothing, and where it leads;
* `Path.ofArc_of_pos`: the commands for an arc;
* `clockwiseSweep_reaches`: the way, and the arc that takes it.
-/

namespace ShapeOutline

open Scalar (tolerance)

/-! ## How long the way is -/

theorem clockwiseSweep_eq (start stop : ℝ) :
    clockwiseSweep start stop =
      let rest := stop - start - 360 * ⌊(stop - start) / 360⌋
      if |stop - start| < (tolerance : ℝ) then 0
      else if rest < (tolerance : ℝ) ∨ 360 - rest < (tolerance : ℝ) then 360 else rest := by
  have hturn : (0 : ℝ) < 360 := by norm_num
  unfold clockwiseSweep
  simp only [Exact.literal_ofNat, Exact.literal_zero]
  rw [Scalar.remEuclid_eq hturn]
  rfl

/-- Angles that coincide have no way between them. Between others the way is a full turn if they are nearly
full turns apart, and else what is left above the full turns. -/
theorem clockwiseSweep_cases (start stop : ℝ) :
    (|stop - start| < (tolerance : ℝ) ∧ clockwiseSweep start stop = 0) ∨
      (tolerance : ℝ) ≤ |stop - start| ∧ ∃ n : ℤ,
        (clockwiseSweep start stop = 360 ∧ |stop - start - 360 * n| < (tolerance : ℝ) ∨
          clockwiseSweep start stop = stop - start - 360 * n ∧
            clockwiseSweep start stop ∈ Set.Icc (tolerance : ℝ) (360 - (tolerance : ℝ))) := by
  have hfloor := Int.floor_le ((stop - start) / 360)
  have hnext := Int.lt_floor_add_one ((stop - start) / 360)
  rw [clockwiseSweep_eq]
  dsimp only
  generalize ⌊(stop - start) / 360⌋ = n at hfloor hnext ⊢
  rw [le_div_iff₀ (by norm_num)] at hfloor
  rw [div_lt_iff₀ (by norm_num)] at hnext
  by_cases hsame : |stop - start| < (tolerance : ℝ)
  · exact .inl ⟨hsame, if_pos hsame⟩
  · rw [if_neg hsame]
    refine .inr ⟨not_lt.mp hsame, ?_⟩
    split
    · next hfull =>
      rcases hfull with hover | hshort
      · -- just over some full turns
        refine ⟨n, .inl ⟨rfl, abs_lt.mpr ⟨?_, hover⟩⟩⟩
        have htolerance := Scalar.tolerance_pos
        linarith
      · -- just short of one more
        refine ⟨n + 1, .inl ⟨rfl, abs_lt.mpr ⟨?_, ?_⟩⟩⟩
        · push_cast
          linarith
        · have htolerance := Scalar.tolerance_pos
          push_cast
          linarith
    · next hbetween =>
      rw [not_or, not_lt, not_lt] at hbetween
      exact ⟨n, .inr ⟨rfl, hbetween.1, by linarith [hbetween.2]⟩⟩

theorem clockwiseSweep_mem (start stop : ℝ) : clockwiseSweep start stop ∈ Set.Icc 0 360 := by
  have hpos := Scalar.tolerance_pos
  rcases clockwiseSweep_cases start stop with ⟨-, hzero⟩ | ⟨-, n, ⟨hfull, -⟩ | ⟨-, hlo, hhi⟩⟩
  · rw [hzero]
    exact ⟨le_rfl, by norm_num⟩
  · rw [hfull]
    exact ⟨by norm_num, le_rfl⟩
  · exact ⟨by linarith, by linarith⟩

theorem clockwiseSweep_eq_zero_iff (start stop : ℝ) :
    clockwiseSweep start stop = 0 ↔ |stop - start| < (tolerance : ℝ) := by
  have hpos := Scalar.tolerance_pos
  rcases clockwiseSweep_cases start stop with ⟨hsame, hzero⟩ | ⟨hapart, n, ⟨hfull, -⟩ | ⟨-, hlo, -⟩⟩
  · exact iff_of_true hzero hsame
  · exact iff_of_false (by rw [hfull]; norm_num) hapart.not_gt
  · exact iff_of_false (by linarith) hapart.not_gt

/-- The way leads to the other angle, up to full turns and less than the tolerance. -/
theorem clockwiseSweep_congruent (start stop : ℝ) :
    ∃ n : ℤ, |clockwiseSweep start stop - (stop - start) - 360 * n| < (tolerance : ℝ) := by
  rcases clockwiseSweep_cases start stop with
    ⟨hsame, hzero⟩ | ⟨-, n, ⟨hfull, hnear⟩ | ⟨hrest, -⟩⟩
  · refine ⟨0, ?_⟩
    rwa [hzero, Int.cast_zero, mul_zero, sub_zero, zero_sub, abs_neg]
  · refine ⟨1 - n, ?_⟩
    have hoff : 360 - (stop - start) - 360 * ((1 - n : ℤ) : ℝ) = -(stop - start - 360 * n) := by
      push_cast
      ring
    rwa [hfull, hoff, abs_neg]
  · refine ⟨-n, ?_⟩
    have hexact : stop - start - 360 * n - (stop - start) - 360 * ((-n : ℤ) : ℝ) = 0 := by
      push_cast
      ring
    rw [hrest, hexact, abs_zero]
    exact Scalar.tolerance_pos

/-! ## The arc that takes the way -/

/-- The commands for an arc along an ellipse. -/
theorem Path.ofArc_of_pos {a : Arc ℝ} (hrx : 0 < a.rx) (hry : 0 < a.ry) (wedge : Bool) :
    Path.ofArc a wedge
      = ⟨.moveTo a.startPoint :: .arcTo a.clockwise :: if wedge then [.lineTo a.center] else []⟩ := by
  rw [Path.ofArc, if_neg (Pen.not_isDegenerate hrx hry)]

/-- The clockwise way between two angles is at most a full turn, is nothing exactly when they coincide, and leads
from one to the other, up to full turns and less than the tolerance. An arc of its own takes this way: it is
a move to its first point, the clockwise arc along its ellipse to the angle that is asked for, and for a wedge
a line to the centre. -/
theorem clockwiseSweep_reaches :
    (∀ start stop : ℝ,
      clockwiseSweep start stop ∈ Set.Icc 0 360 ∧
      (clockwiseSweep start stop = 0 ↔ |stop - start| < (tolerance : ℝ)) ∧
      ∃ n : ℤ, |clockwiseSweep start stop - (stop - start) - 360 * n| < (tolerance : ℝ)) ∧
    ∀ (a : Arc ℝ) (wedge : Bool), 0 < a.rx → 0 < a.ry → ∃ b : Arc ℝ,
      Path.ofArc a wedge
        = ⟨.moveTo a.startPoint :: .arcTo b :: if wedge then [.lineTo a.center] else []⟩ ∧
      b.center = a.center ∧ b.rx = a.rx ∧ b.ry = a.ry ∧ b.start = a.start ∧ b.start ≤ b.stop ∧
      ∃ n : ℤ, |b.stop - a.stop - 360 * n| < (tolerance : ℝ) := by
  refine ⟨fun start stop => ⟨clockwiseSweep_mem start stop, clockwiseSweep_eq_zero_iff start stop,
    clockwiseSweep_congruent start stop⟩, fun a wedge hrx hry => ?_⟩
  refine ⟨a.clockwise, Path.ofArc_of_pos hrx hry wedge, rfl, rfl, rfl, rfl, ?_, ?_⟩
  · exact le_add_of_nonneg_right (clockwiseSweep_mem a.start a.stop).1
  · obtain ⟨n, hn⟩ := clockwiseSweep_congruent a.start a.stop
    refine ⟨n, ?_⟩
    have hstop : a.clockwise.stop - a.stop
        = clockwiseSweep a.start a.stop - (a.stop - a.start) := by
      show a.start + clockwiseSweep a.start a.stop - a.stop = _
      ring
    rwa [hstop]

/-- Three quarters of an ellipse, asked for backwards from below to the right and drawn as a wedge. -/
theorem clockwiseSweep_reaches_wedge :
    let a : Arc ℝ := ⟨⟨10, 20⟩, 5, 3, 90, -360⟩
    0 < a.rx ∧ 0 < a.ry ∧ clockwiseSweep a.start a.stop ≠ 0 ∧ ∃ b : Arc ℝ,
      Path.ofArc a true = ⟨[.moveTo a.startPoint, .arcTo b, .lineTo ⟨10, 20⟩]⟩ ∧
      b.start ≤ b.stop ∧ ∃ n : ℤ, |b.stop - -360 - 360 * n| < (tolerance : ℝ) := by
  intro a
  have hrx : 0 < a.rx := by
    show (0 : ℝ) < 5
    norm_num
  have hry : 0 < a.ry := by
    show (0 : ℝ) < 3
    norm_num
  obtain ⟨hway, harc⟩ := clockwiseSweep_reaches
  obtain ⟨b, hpath, -, -, -, -, hforth, hreaches⟩ := harc a true hrx hry
  refine ⟨hrx, hry, ?_, b, hpath, hforth, hreaches⟩
  rw [ne_eq, (hway a.start a.stop).2.1, Scalar.tolerance_eq]
  show ¬|(-360 : ℝ) - 90| < _
  norm_num

end ShapeOutline
