import Mathlib
import ShapeOutline.Proofs.Path.Direction
import ShapeOutline.Proofs.Pen.InBox

/-!
# Turning around an ellipse

When a direction turns, the parametric angle of the point of an ellipse that is seen in it turns along: in
the same sense, by a full turn when the direction makes one, and never a quarter turn away from it. So an
arc that is drawn from one direction to another runs the way that its sweep says.

* `LiesToward.cos_pos`, `LiesToward.sin_pos`: a point of an ellipse and the direction in which it is seen are
  on one side, and the points follow the order of their directions;
* `parametricAngle_eq_iff`: the converted angle is the only one within a quarter turn whose point is seen in
  the direction;
* `parametricAngle_add_turns`, `parametricAngle_strictMono`: the conversion keeps full turns and the order;
* `Pen.step_arcTo`: what an elliptical arc leaves in any local space;
* `parametricAngle_turns_along`: all of this, and what follows for arcs;
* `Pen.flat_space_draws_line`: an arc in a space that is flattened to a line.
-/

namespace ShapeOutline

open Scalar (tolerance)

/-! ## Differences of angles -/

theorem sinCos_sub (e d : ℝ) :
    sinCos (e - d) = ((sinCos e).1 * (sinCos d).2 - (sinCos e).2 * (sinCos d).1,
      (sinCos e).2 * (sinCos d).2 + (sinCos e).1 * (sinCos d).1) := by
  simp only [sinCos_eq, sub_mul, Real.sin_sub, Real.cos_sub]

theorem cos_abs (x : ℝ) : (sinCos |x|).2 = (sinCos x).2 := by
  rcases abs_choice x with hforth | hback
  · rw [hforth]
  · rw [hback, sinCos_neg]

/-- What turns by at most a half turn and has a positive cosine turns by less than a quarter. -/
theorem abs_lt_of_cos_pos {x : ℝ} (hx : |x| ≤ 180) (hcos : 0 < (sinCos x).2) : |x| < 90 := by
  by_contra hquarter
  have hpi := Real.pi_pos
  rw [← cos_abs, sinCos_eq] at hcos
  refine absurd (Real.cos_nonpos_of_pi_div_two_le_of_le ?_ ?_) (not_le.mpr hcos)
  · nlinarith
  · nlinarith

theorem sin_pos {x : ℝ} (hpos : 0 < x) (hhalf : x < 180) : 0 < (sinCos x).1 := by
  have hsweep : 2 * x / 2 = x := mul_div_cancel_left₀ x two_ne_zero
  rw [← hsweep]
  exact sinCos_half_pos (by linarith) (by linarith)

/-- What turns less than a half turn back and has a positive sine turns forth. -/
theorem pos_of_sin_pos {x : ℝ} (hx : -180 < x) (hsin : 0 < (sinCos x).1) : 0 < x := by
  by_contra hback
  rcases (not_lt.mp hback).lt_or_eq with hneg | rfl
  · have hsin' := sin_pos (neg_pos.mpr hneg) (by linarith)
    rw [sinCos_neg] at hsin'
    linarith
  · rw [sinCos_eq, zero_mul, Real.sin_zero] at hsin
    exact lt_irrefl 0 hsin

/-! ## Points of an ellipse and their directions -/

variable {rx ry : ℝ}

theorem ellipsePoint_sub_center (center : Point ℝ) (rx ry deg : ℝ) :
    ellipsePoint center rx ry deg - center = ellipsePoint Point.origin rx ry deg := by
  rw [ellipsePoint_origin]
  exact congrArg₂ Point.mk (add_sub_cancel_left _ _) (add_sub_cancel_left _ _)

/-- A point of an ellipse is on the side of the direction in which it is seen. -/
theorem Point.LiesToward.cos_pos (hrx : 0 < rx) (hry : 0 < ry) {t d : ℝ}
    (h : (ellipsePoint Point.origin rx ry t).LiesToward d) : 0 < (sinCos (t - d)).2 := by
  obtain ⟨r, hr, hp⟩ := h
  rw [ellipsePoint_origin, Point.mk.injEq] at hp
  obtain ⟨hcos, hsin⟩ := hp
  have hscaled : rx * ry * (sinCos (t - d)).2
      = r * (ry * (sinCos d).2 ^ 2 + rx * (sinCos d).1 ^ 2) := by
    rw [sinCos_sub]
    linear_combination ry * (sinCos d).2 * hcos + rx * (sinCos d).1 * hsin
  have hunit := sinCos_sq_add_sq d
  have hpos : 0 < ry * (sinCos d).2 ^ 2 + rx * (sinCos d).1 ^ 2 := by
    by_cases hzero : (sinCos d).1 = 0
    · rw [hzero] at hunit ⊢
      nlinarith
    · positivity
  have hproduct : 0 < rx * ry * (sinCos (t - d)).2 := hscaled ▸ mul_pos hr hpos
  exact (mul_pos_iff_of_pos_left (mul_pos hrx hry)).mp hproduct

/-- Points of an ellipse follow each other as the directions do in which they are seen. -/
theorem Point.LiesToward.sin_pos (hrx : 0 < rx) (hry : 0 < ry) {s t d e : ℝ}
    (hs : (ellipsePoint Point.origin rx ry s).LiesToward d)
    (ht : (ellipsePoint Point.origin rx ry t).LiesToward e) (h : 0 < (sinCos (e - d)).1) :
    0 < (sinCos (t - s)).1 := by
  obtain ⟨r, hr, hps⟩ := hs
  obtain ⟨r', hr', hpt⟩ := ht
  rw [ellipsePoint_origin, Point.mk.injEq] at hps hpt
  obtain ⟨hscos, hssin⟩ := hps
  obtain ⟨htcos, htsin⟩ := hpt
  have hscaled : rx * ry * (sinCos (t - s)).1 = r * r' * (sinCos (e - d)).1 := by
    rw [sinCos_sub, sinCos_sub]
    linear_combination ry * (sinCos t).1 * hscos + r * (sinCos d).2 * htsin
      - rx * (sinCos t).2 * hssin - r * (sinCos d).1 * htcos
  have hproduct : 0 < rx * ry * (sinCos (t - s)).1 := hscaled ▸ mul_pos (mul_pos hr hr') h
  exact (mul_pos_iff_of_pos_left (mul_pos hrx hry)).mp hproduct

/-! ## Converting directions that turn -/

theorem abs_parametricAngle_sub_le (deg rx ry : ℝ) : |parametricAngle deg rx ry - deg| ≤ 180 := by
  unfold parametricAngle
  split
  · rw [sub_self, abs_zero]
    norm_num
  · dsimp only
    generalize (Scalar.degrees _ : ℝ) = t
    rw [Exact.literal_eq]
    -- the turns that are added are those by which the direction is ahead, rounded
    have hround := Exact.abs_sub_roundAway_le ((deg - t) / (360 : ℕ))
    have hoff : t + (360 : ℕ) * Scalar.round ((deg - t) / (360 : ℕ)) - deg
        = -(360 * ((deg - t) / (360 : ℕ) - Exact.roundAway ((deg - t) / (360 : ℕ)))) := by
      show t + (360 : ℕ) * (Exact.roundAway ((deg - t) / (360 : ℕ)) : ℝ) - deg = _
      push_cast
      ring
    rw [hoff, abs_neg, abs_mul, abs_of_pos (by norm_num)]
    linarith

/-- Directions are converted exactly or not at all. -/
theorem parametricAngle_cases (rx ry : ℝ) :
    (0 < rx ∧ 0 < ry ∧ ConvertsExactly rx ry) ∨ ∀ deg, parametricAngle deg rx ry = deg := by
  by_cases hradii : 0 < rx ∧ 0 < ry
  · by_cases hexact : ConvertsExactly rx ry
    · exact .inl ⟨hradii.1, hradii.2, hexact⟩
    · exact .inr (parametricAngle_of_near (not_le.mp (not_or.mp hexact).2))
  · right
    intro deg
    rw [not_and_or, not_lt, not_lt, ← Exact.literal_zero] at hradii
    exact if_pos (hradii.elim .inl fun hry => .inr (.inl hry))

/-- The converted angle stays within a quarter turn of the direction. -/
theorem abs_parametricAngle_sub_lt (deg rx ry : ℝ) : |parametricAngle deg rx ry - deg| < 90 := by
  rcases parametricAngle_cases rx ry with ⟨hrx, hry, hexact⟩ | hleft
  · exact abs_lt_of_cos_pos (abs_parametricAngle_sub_le deg rx ry)
      ((ellipsePoint_liesToward hrx hry hexact deg).cos_pos hrx hry)
  · rw [hleft, sub_self, abs_zero]
    norm_num

/-- The converted angle is the only one within a quarter turn of the direction whose point is seen in
it. -/
theorem parametricAngle_eq_iff (hrx : 0 < rx) (hry : 0 < ry) (hexact : ConvertsExactly rx ry)
    (deg t : ℝ) :
    parametricAngle deg rx ry = t ↔
      (ellipsePoint Point.origin rx ry t).LiesToward deg ∧ |t - deg| < 90 := by
  constructor
  · rintro rfl
    exact ⟨ellipsePoint_liesToward hrx hry hexact deg, abs_parametricAngle_sub_lt deg rx ry⟩
  · rintro ⟨hseen, hnear⟩
    obtain ⟨k, hk⟩ := (sinCos_eq_iff _ _).mp (sinCos_parametricAngle hrx hry hexact hseen)
    have hnear' := abs_parametricAngle_sub_lt deg rx ry
    rw [abs_lt] at hnear hnear'
    -- the two angles are full turns apart, and less than half a turn
    have hlo : (-1 : ℝ) < k := by linarith
    have hhi : (k : ℝ) < 1 := by linarith
    obtain rfl : k = 0 := by
      have hlo' : -1 < k := by exact_mod_cast hlo
      have hhi' : k < 1 := by exact_mod_cast hhi
      omega
    rw [hk, Int.cast_zero, mul_zero, add_zero]

/-- Full turns of the direction are full turns of the angle. -/
theorem parametricAngle_add_turns (deg rx ry : ℝ) (n : ℤ) :
    parametricAngle (deg + 360 * n) rx ry = parametricAngle deg rx ry + 360 * n := by
  rcases parametricAngle_cases rx ry with ⟨hrx, hry, hexact⟩ | hleft
  · obtain ⟨hseen, hnear⟩ := (parametricAngle_eq_iff hrx hry hexact deg _).mp rfl
    refine (parametricAngle_eq_iff hrx hry hexact _ _).mpr ⟨?_, ?_⟩
    · rw [ellipsePoint_origin, sinCos_add_turns, ← ellipsePoint_origin]
      exact hseen.of_sinCos_eq (sinCos_add_turns deg n).symm
    · rwa [add_sub_add_right_eq_sub]
  · rw [hleft, hleft]

/-- Directions that turn forth are converted to angles that turn forth. -/
theorem parametricAngle_strictMono (rx ry : ℝ) :
    StrictMono fun deg => parametricAngle deg rx ry := by
  intro d e hde
  dsimp only
  rcases parametricAngle_cases rx ry with ⟨hrx, hry, hexact⟩ | hleft
  · obtain ⟨-, hd⟩ := abs_lt.mp (abs_parametricAngle_sub_lt d rx ry)
    obtain ⟨he, -⟩ := abs_lt.mp (abs_parametricAngle_sub_lt e rx ry)
    refine sub_pos.mp ?_
    by_cases hhalf : e - d < 180
    · -- within half a turn the sine tells forth from back
      refine pos_of_sin_pos (by linarith) ?_
      exact (ellipsePoint_liesToward hrx hry hexact d).sin_pos hrx hry
        (ellipsePoint_liesToward hrx hry hexact e) (sin_pos (sub_pos.mpr hde) hhalf)
    · -- beyond it, two quarters do not make up for the way
      linarith
  · rwa [hleft, hleft]

/-- The converted sweep has the sense of the sweep. -/
theorem sign_parametricAngle_sub (start sweep rx ry : ℝ) :
    SignType.sign (parametricAngle (start + sweep) rx ry - parametricAngle start rx ry)
      = SignType.sign sweep := by
  have hmono := parametricAngle_strictMono rx ry
  rcases lt_trichotomy sweep 0 with hback | rfl | hforth
  · rw [sign_neg hback, sign_neg (sub_neg.mpr (hmono (by linarith)))]
  · rw [add_zero, sub_self]
  · rw [sign_pos hforth, sign_pos (sub_pos.mpr (hmono (by linarith)))]

/-! ## Arcs -/

namespace Pen

/-- What an elliptical arc leaves behind, in any local space: it starts where the pen is, perhaps just put
down, has the radii stretched onto the box, and runs between the converted directions. -/
theorem step_arcTo (pen : Pen ℝ) (hrx : 0 < rx) (hry : 0 < ry) (start sweep : ℝ) :
    ∃ a : Arc ℝ, (pen.step (.arcTo rx ry start sweep)).2 = pen.ready.2.2 ++ [.ofArc a] ∧
      a.rx = rx * pen.scale.x ∧ a.ry = ry * pen.scale.y ∧ a.start = parametricAngle start rx ry ∧
      a.stop = parametricAngle (start + sweep) rx ry ∧ a.startPoint = pen.toBox pen.ready.2.1 := by
  refine ⟨_, congrArg Prod.snd (ellipticalArc_of_pos pen hrx hry start sweep), rfl, rfl, rfl, rfl, ?_⟩
  rw [Arc.startPoint, pointAt_toBox, ellipsePoint_sub]

/-- A pen is put down by at most a move. -/
theorem isMove_of_mem_ready (pen : Pen ℝ) : ∀ c ∈ pen.ready.2.2, c.isMove = true := by
  unfold ready
  split
  · exact List.forall_mem_nil _
  · exact List.forall_mem_singleton.mpr rfl

end Pen

/-- The conversion of directions to angles keeps their order and their full turns, stays within a quarter
turn, and leads to the point that is seen in the direction. So an elliptical arc runs the way that its sweep
says, and as far as it says when that is full turns. It is an arc exactly in the spaces that are stretched
onto a box with an extent. -/
theorem parametricAngle_turns_along (hrx : 0 < rx) (hry : 0 < ry) :
    StrictMono (fun deg => parametricAngle deg rx ry) ∧
    (∀ deg, parametricAngle (deg + 360) rx ry = parametricAngle deg rx ry + 360) ∧
    (∀ deg, |parametricAngle deg rx ry - deg| < 90) ∧
    (ConvertsExactly rx ry → ∀ center deg,
      (ellipsePoint center rx ry (parametricAngle deg rx ry) - center).LiesToward deg) ∧
    ∀ (pen : Pen ℝ) (start sweep : ℝ), ∃ before last,
      (pen.step (.arcTo rx ry start sweep)).2 = before ++ [last] ∧
      (∀ c ∈ before, c.isMove = true) ∧
      (0 < pen.scale.x ∧ 0 < pen.scale.y → ∃ a, last = .arcTo a ∧
        SignType.sign (a.stop - a.start) = SignType.sign sweep ∧
        ∀ n : ℤ, sweep = 360 * n → a.stop - a.start = sweep) ∧
      (¬(0 < pen.scale.x ∧ 0 < pen.scale.y) → ∃ p, last = .lineTo p) := by
  refine ⟨parametricAngle_strictMono rx ry, fun deg => ?_, fun deg => ?_, fun hexact center deg => ?_,
    fun pen start sweep => ?_⟩
  · have hturn := parametricAngle_add_turns deg rx ry 1
    rwa [Int.cast_one, mul_one] at hturn
  · exact abs_parametricAngle_sub_lt deg rx ry
  · rw [ellipsePoint_sub_center]
    exact ellipsePoint_liesToward hrx hry hexact deg
  · obtain ⟨a, hstep, harx, hary, hstart, hstop, -⟩ := pen.step_arcTo hrx hry start sweep
    have hdegenerate : a.isDegenerate = true ↔ ¬(0 < pen.scale.x ∧ 0 < pen.scale.y) := by
      rw [Pen.isDegenerate_iff, harx, hary, mul_pos_iff_of_pos_left hrx, mul_pos_iff_of_pos_left hry]
    refine ⟨_, _, hstep, pen.isMove_of_mem_ready, fun hspace => ⟨a, ?_, ?_, ?_⟩, fun hflat => ?_⟩
    · exact if_neg (mt hdegenerate.mp (not_not_intro hspace))
    · rw [hstart, hstop, sign_parametricAngle_sub]
    · rintro n rfl
      rw [hstart, hstop, parametricAngle_add_turns, add_sub_cancel_left]
    · exact ⟨_, if_pos (hdegenerate.mpr hflat)⟩

/-- An ellipse twice as wide as high, and more than a turn back along it. -/
theorem parametricAngle_turns_along_back :
    (0 : ℝ) < 2 ∧ (0 : ℝ) < 1 ∧ ConvertsExactly 2 1 ∧
      StrictMono (fun deg => parametricAngle deg (2 : ℝ) 1) ∧
      (∀ deg : ℝ, parametricAngle (deg + 360) 2 1 = parametricAngle deg 2 1 + 360) ∧
      (∀ deg : ℝ, |parametricAngle deg 2 1 - deg| < 90) ∧
      (∀ center (deg : ℝ),
        (ellipsePoint center 2 1 (parametricAngle deg 2 1) - center).LiesToward deg) ∧
      ∃ before a, (Pen.plain.step (.arcTo (2 : ℝ) 1 30 (-400))).2 = before ++ [.arcTo a] ∧
        SignType.sign (a.stop - a.start) = SignType.sign (-400 : ℝ) := by
  have hexact : ConvertsExactly 2 1 := by
    right
    have htolerance : (tolerance : ℝ) = 1e-9 := rfl
    rw [htolerance]
    norm_num
  have hspace : 0 < (Pen.plain : Pen ℝ).scale.x ∧ 0 < (Pen.plain : Pen ℝ).scale.y := by
    rw [Pen.plain_scale]
    exact ⟨one_pos, one_pos⟩
  obtain ⟨hmono, hturn, hnear, hseen, harc⟩ := parametricAngle_turns_along two_pos one_pos
  obtain ⟨before, last, hstep, -, hdrawn, -⟩ := harc Pen.plain 30 (-400)
  obtain ⟨a, rfl, hsign, -⟩ := hdrawn hspace
  exact ⟨two_pos, one_pos, hexact, hmono, hturn, hnear, hseen hexact, before, a, hstep, hsign⟩

/-- In a space that is stretched onto a box without width, a quarter of a circle is drawn as a line that
goes nowhere. -/
theorem Pen.flat_space_draws_line :
    let pen := ((Pen.inSpace 0 100 100 100 : Pen ℝ).step (.moveTo 0 50)).1
    (0 : ℝ) < 50 ∧ (pen.step (.arcTo 50 50 180 90)).2 = [.lineTo ⟨0, 50⟩] ∧
      ¬∃ before a, (pen.step (.arcTo 50 50 180 90)).2 = before ++ [.arcTo a] := by
  intro pen
  have hscale : pen.scale = ⟨0, 1⟩ := by
    show (⟨Pen.factor 0 100, Pen.factor 100 100⟩ : Point ℝ) = _
    unfold Pen.factor
    rw [Exact.literal_zero]
    norm_num
  have hready : pen.ready = (pen, ⟨0, 50⟩, []) := rfl
  have hfifty : (0 : ℝ) < 50 := by norm_num
  obtain ⟨a, hstep, harx, -, -, -, hpoint⟩ := pen.step_arcTo hfifty hfifty 180 90
  have hdegenerate : a.isDegenerate = true := by
    rw [Pen.isDegenerate_iff, harx, hscale, mul_zero]
    exact fun hradii => lt_irrefl _ hradii.1
  have hline : (pen.step (.arcTo 50 50 180 90)).2 = [.lineTo ⟨0, 50⟩] := by
    rw [hstep, hready, Command.ofArc, if_pos hdegenerate, hpoint, hready, Pen.toBox, hscale]
    show [Command.lineTo (⟨0 * 0, 50 * 1⟩ : Point ℝ)] = _
    rw [mul_zero, mul_one]
  refine ⟨hfifty, hline, ?_⟩
  rintro ⟨before, b, hdrawn⟩
  have hsame : [] ++ [Command.lineTo ⟨0, 50⟩] = before ++ [.arcTo b] := hline.symm.trans hdrawn
  cases List.append_inj_right' hsame rfl

end ShapeOutline
