import Mathlib
import ShapeOutline.Preset
import ShapeOutline.Proofs.Guide.Declared
import ShapeOutline.Proofs.Path.Inscribed
import ShapeOutline.Proofs.Pen.Weld
import ShapeOutline.Proofs.Scale.Length

/-!
# The elliptical bubble

The outline of the elliptical bubble goes from a point of the ellipse that touches the sides of the box to
the tip, back to another point of this ellipse, and along an arc. The two points lie eleven degrees to
either side of the direction of the tip. The arc has the radii of the ellipse, but is not on it: it is drawn
from the second point at the angle of the first one, and so it is moved by the way between the two.

* `Callout.wedgeEllipse_eq`: the commands of the outline;
* `Callout.wedgeEllipse_outline`: where the points and the arc of the outline lie;
* `Callout.bubble_below_is_shifted`: a bubble with its tip below it.
-/

namespace ShapeOutline

open Scalar (direction)

variable {w h : ℝ}

namespace Preset.Callout

/-! ## The commands of the outline -/

/-- A chain of lines through three points with an arc behind it, closed. -/
theorem drawn_chain_arc (p q z : Point ℝ) {rx ry : ℝ} (hrx : 0 < rx) (hry : 0 < ry)
    (start sweep : ℝ) :
    Path.drawn [.moveTo p.x p.y, .lineTo q.x q.y, .lineTo z.x z.y, .arcTo rx ry start sweep, .close]
      = ⟨[.moveTo p, .lineTo q, .lineTo z,
          .arcTo ⟨z - ellipsePoint Point.origin rx ry (parametricAngle start rx ry), rx, ry,
            parametricAngle start rx ry, parametricAngle (start + sweep) rx ry⟩, .close]⟩ := by
  let pen : Pen ℝ := ((Pen.plain.movedTo p).drawnTo q).drawnTo z
  have hbox (r : Point ℝ) : Pen.plain.toBox r = r := Pen.toBox_of_scale_one Pen.plain_scale r
  have hpos : pen.position = some z := rfl
  have harc := Pen.ellipticalArc_in_box hpos Pen.plain_scale hrx hry start sweep
  show Path.mk (.moveTo (Pen.plain.toBox p) :: .lineTo (Pen.plain.toBox q)
    :: .lineTo (Pen.plain.toBox z) :: ((pen.ellipticalArc rx ry start sweep).2
      ++ ((pen.ellipticalArc rx ry start sweep).1.run [.close]).2)) = _
  rw [harc, hbox, hbox, hbox]
  rfl

theorem tipOffset_eq {f : Frame ℝ} {a1 a2 : ℝ} (h1 : f.adj "adj1" = .ok a1)
    (h2 : f.adj "adj2" = .ok a2) : tipOffset f = .ok (f.ofWidth a1, f.ofHeight a2) := by
  rw [tipOffset, h1, h2]
  rfl

/-- In a box that is made square, the tip is seen from the centre where its guides say. -/
theorem direction_tip {f : Frame ℝ} (hw : 0 < f.w) (hh : 0 < f.h) (a1 a2 : ℝ) :
    direction (f.ofWidth a1 * f.h) (f.ofHeight a2 * f.w) = direction a1 a2 := by
  have hx : f.ofWidth a1 * f.h = a1 * (f.w * f.h / 100000) := by
    rw [Frame.ofWidth, Exact.literal_ofNat 100000]
    ring
  have hy : f.ofHeight a2 * f.w = a2 * (f.w * f.h / 100000) := by
    rw [Frame.ofHeight, Exact.literal_ofNat 100000]
    ring
  have hratio : 0 < f.w * f.h / 100000 := by positivity
  rw [hx, hy]
  exact Exact.direction_grown ⟨_, hratio⟩ a1 a2

/-- The commands of the outline. The arc is drawn from the second point of the ellipse, in the direction of
the first one, to the direction of the second one. -/
theorem wedgeEllipse_eq {f : Frame ℝ} {a1 a2 : ℝ} (h1 : f.adj "adj1" = .ok a1)
    (h2 : f.adj "adj2" = .ok a2) (hw : 0 < f.w) (hh : 0 < f.h) :
    ∃ d e,
      (ellipsePoint Point.origin (f.w / 2) (f.h / 2) (direction a1 a2 + 11)).LiesToward d ∧
      (ellipsePoint Point.origin (f.w / 2) (f.h / 2) (direction a1 a2 - 11)).LiesToward e ∧
      wedgeEllipse f = .ok ⟨[.moveTo (inscribedPoint f.w f.h (direction a1 a2 + 11)),
        .lineTo ⟨f.w / 2 + f.w * a1 / 100000, f.h / 2 + f.h * a2 / 100000⟩,
        .lineTo (inscribedPoint f.w f.h (direction a1 a2 - 11)),
        .arcTo (arcFrom f.w f.h (direction a1 a2 - 11) (parametricAngle d (f.w / 2) (f.h / 2))
          (parametricAngle e (f.w / 2) (f.h / 2))), .close]⟩ := by
  obtain ⟨hhc, hvc, hwd2, hhd2⟩ := f.halves
  unfold wedgeEllipse
  rw [tipOffset_eq h1 h2, Guided.ok_bind]
  dsimp only
  rw [direction_tip hw hh, Exact.literal_ofNat 11, hhc, hvc, hwd2, hhd2, Frame.ofWidth, Frame.ofHeight,
    Exact.literal_ofNat 100000]
  have hd := ellipsePoint_liesToward_direction (half_pos hw) (half_pos hh) (direction a1 a2 + 11)
  have he := ellipsePoint_liesToward_direction (half_pos hw) (half_pos hh) (direction a1 a2 - 11)
  generalize direction (f.w / 2 * (sinCos (direction a1 a2 + 11)).2) _ = d at hd ⊢
  generalize direction (f.w / 2 * (sinCos (direction a1 a2 - 11)).2) _ = e at he ⊢
  refine ⟨d, _, hd, he.of_sinCos_eq (sinCos_add_sweep ?_).symm, congrArg Except.ok
    (drawn_chain_arc (inscribedPoint f.w f.h (direction a1 a2 + 11)) ⟨_, _⟩
      (inscribedPoint f.w f.h (direction a1 a2 - 11)) (half_pos hw) (half_pos hh) d _)⟩
  -- the sweep is the way from `d` to `e`, with a turn added when it goes back
  split
  · exact .inl rfl
  · exact .inr (congrArg _ (Exact.literal_ofNat 360))

/-! ## Where the arc lies -/

/-- The two points of the ellipse differ. -/
theorem sinCos_sides_ne (toTip : ℝ) : sinCos (toTip - 11) ≠ sinCos (toTip + 11) := by
  rw [Ne, sinCos_eq_iff]
  rintro ⟨k, hk⟩
  have hturns : (22 : ℝ) = 360 * k := by linarith
  have hint : (22 : ℤ) = 360 * k := by exact_mod_cast hturns
  omega

/-- An arc from the second point at the angle of the first one, to the angle of the second one, is shifted by
the way between the two points, and ends off the ellipse. -/
theorem arcFrom_shifted (hw : 0 < w) (hh : 0 < h) {s t start stop : ℝ} (hne : sinCos t ≠ sinCos s)
    (hstart : sinCos start = sinCos s) (hstop : sinCos stop = sinCos t) :
    let first := inscribedPoint w h s
    let leave := inscribedPoint w h t
    let arc := arcFrom w h t start stop
    arc.center = ⟨w / 2, h / 2⟩ + (leave - first) ∧ arc.center ≠ ⟨w / 2, h / 2⟩ ∧
      arc.pointAt arc.stop = leave + (leave - first) ∧ arc.pointAt arc.stop ≠ first ∧
      ¬OnInscribed w h (arc.pointAt arc.stop) := by
  intro first leave arc
  have hend : arc.pointAt arc.stop = leave + (leave - first) := arcFrom_pointAt_of_other hstart hstop
  have hoff : ¬OnInscribed w h (arc.pointAt arc.stop) := by
    rw [hend]
    exact not_onInscribed_reflected hw hh hne
  refine ⟨arcFrom_center_of_other hstart, ?_, hend, ?_, hoff⟩
  · intro hcenter
    exact hne (((arcFrom_center_eq_iff hw hh).mp hcenter).symm.trans hstart)
  · intro hback
    rw [hback] at hoff
    exact hoff (onInscribed_inscribedPoint hw hh s)

/-- No arc of a bubble is on the ellipse and ends at the first point. -/
theorem not_back_on_ellipse (hw : 0 < w) (hh : 0 < h) {s t d e : ℝ} (hne : sinCos t ≠ sinCos s)
    (hd : (ellipsePoint Point.origin (w / 2) (h / 2) s).LiesToward d)
    (he : (ellipsePoint Point.origin (w / 2) (h / 2) t).LiesToward e) :
    let arc := arcFrom w h t (parametricAngle d (w / 2) (h / 2)) (parametricAngle e (w / 2) (h / 2))
    ¬(arc.center = ⟨w / 2, h / 2⟩ ∧ arc.pointAt arc.stop = inscribedPoint w h s) := by
  rintro arc ⟨hcenter, hback⟩
  have hstart := (arcFrom_center_eq_iff hw hh).mp hcenter
  by_cases hexact : ConvertsExactly (w / 2) (h / 2)
  · have hconverted := sinCos_parametricAngle (half_pos hw) (half_pos hh) hexact hd
    exact hne (hstart.symm.trans hconverted)
  · -- the directions of a near-circle are left as they are, each at the angle of the other point
    obtain ⟨hradii, hnear⟩ := not_or.mp hexact
    have hstop : sinCos arc.stop = sinCos s := by
      rw [Arc.pointAt, hcenter] at hback
      exact (inscribedPoint_eq_iff hw hh _ s).mp hback
    have hleft (deg : ℝ) : parametricAngle deg (w / 2) (h / 2) = deg :=
      parametricAngle_of_near (not_le.mp hnear) deg
    have hstop' : sinCos (parametricAngle e (w / 2) (h / 2)) = sinCos s := hstop
    rw [hleft] at hstart hstop'
    rcases sinCos_eq_or_of_exchanged (half_pos hw) (half_pos hh) (hd.of_sinCos_eq hstart)
      (he.of_sinCos_eq hstop') with hsame | hcircle
    · exact hne hsame
    · exact hradii hcircle

/-- The outline of the elliptical bubble. The points at which the wedge meets the ellipse lie on it, eleven
degrees to either side of the tip, and the arc has its radii and begins where the wedge leaves the tip. No
arc of a bubble is on the ellipse and ends where the outline begins: its angles are those of the two points,
but it begins at the second one at the angle of the first one. Where angles are converted exactly it is
shifted by the way between the two points, and ends off the ellipse. -/
theorem wedgeEllipse_outline {a1 a2 : ℝ} (hw : 0 < w) (hh : 0 < h) {guides : GuideSet ℝ}
    (h1 : guides.raw "adj1" = .ok a1) (h2 : guides.raw "adj2" = .ok a2) :
    ∃ first leave arc,
      Kind.wedgeEllipseCallout.outline w h guides
        = .ok ⟨[.moveTo first, .lineTo ⟨w / 2 + w * a1 / 100000, h / 2 + h * a2 / 100000⟩,
            .lineTo leave, .arcTo arc, .close]⟩ ∧
      first = inscribedPoint w h (direction a1 a2 + 11) ∧
      leave = inscribedPoint w h (direction a1 a2 - 11) ∧
      OnInscribed w h first ∧ OnInscribed w h leave ∧
      arc.rx = w / 2 ∧ arc.ry = h / 2 ∧ arc.startPoint = leave ∧
      ¬(arc.center = ⟨w / 2, h / 2⟩ ∧ arc.pointAt arc.stop = first) ∧
      (ConvertsExactly (w / 2) (h / 2) →
        arc.center = ⟨w / 2, h / 2⟩ + (leave - first) ∧ arc.center ≠ ⟨w / 2, h / 2⟩ ∧
        arc.pointAt arc.stop = leave + (leave - first) ∧ arc.pointAt arc.stop ≠ first ∧
        ¬OnInscribed w h (arc.pointAt arc.stop)) := by
  obtain ⟨d, e, hd, he, houtline⟩ := wedgeEllipse_eq (f := ⟨w, h, guides⟩) h1 h2 hw hh
  have hne := sinCos_sides_ne (direction a1 a2)
  have hfirst := onInscribed_inscribedPoint hw hh (direction a1 a2 + 11)
  have hleave := onInscribed_inscribedPoint hw hh (direction a1 a2 - 11)
  refine ⟨_, _, _, houtline, rfl, rfl, hfirst, hleave, rfl, rfl, arcFrom_startPoint,
    not_back_on_ellipse hw hh hne hd he, fun hexact => ?_⟩
  exact arcFrom_shifted hw hh hne (sinCos_parametricAngle (half_pos hw) (half_pos hh) hexact hd)
    (sinCos_parametricAngle (half_pos hw) (half_pos hh) hexact he)

/-- A bubble of 200 by 100 with its tip above it on the left, in a document of which two units are one. -/
theorem wedgeEllipse_outline_above :
    let guides : GuideSet ℝ := ⟨⟨2⟩, [("adj1", -41666), ("adj2", -125000)]⟩
    (0 : ℝ) < 200 ∧ (0 : ℝ) < 100 ∧ guides.raw "adj1" = .ok (-20833) ∧
      guides.raw "adj2" = .ok (-62500) ∧
      ∃ first leave arc,
        Kind.wedgeEllipseCallout.outline 200 100 guides
          = .ok ⟨[.moveTo first,
              .lineTo ⟨200 / 2 + 200 * (-20833) / 100000, 100 / 2 + 100 * (-62500) / 100000⟩,
              .lineTo leave, .arcTo arc, .close]⟩ ∧
        first = inscribedPoint 200 100 (direction (-20833) (-62500) + 11) ∧
        leave = inscribedPoint 200 100 (direction (-20833) (-62500) - 11) ∧
        OnInscribed 200 100 first ∧ OnInscribed 200 100 leave ∧
        arc.rx = 200 / 2 ∧ arc.ry = 100 / 2 ∧ arc.startPoint = leave ∧
        ¬(arc.center = ⟨200 / 2, 100 / 2⟩ ∧ arc.pointAt arc.stop = first) ∧
        (ConvertsExactly (200 / 2) (100 / 2) →
          arc.center = ⟨200 / 2, 100 / 2⟩ + (leave - first) ∧ arc.center ≠ ⟨200 / 2, 100 / 2⟩ ∧
          arc.pointAt arc.stop = leave + (leave - first) ∧ arc.pointAt arc.stop ≠ first ∧
          ¬OnInscribed 200 100 (arc.pointAt arc.stop)) := by
  intro guides
  have h1 : guides.raw "adj1" = .ok (-20833) := by
    show Except.ok (-41666 / 2 : ℝ) = _
    norm_num
  have h2 : guides.raw "adj2" = .ok (-62500) := by
    show Except.ok (-125000 / 2 : ℝ) = _
    norm_num
  have hw : (0 : ℝ) < 200 := by norm_num
  have hh : (0 : ℝ) < 100 := by norm_num
  exact ⟨hw, hh, h1, h2, wedgeEllipse_outline hw hh h1 h2⟩

/-- In a box of 100 by 100 with the tip below, at (50, 112.5), the wedge meets the circle at 101 and at 79
degrees. The arc has its centre beside that of the box, and ends beside the circle. -/
theorem bubble_below_is_shifted :
    let guides : GuideSet ℝ := ⟨⟨1⟩, [("adj1", 0), ("adj2", 62500)]⟩
    ∃ arc,
      Kind.wedgeEllipseCallout.outline 100 100 guides
        = .ok ⟨[.moveTo (inscribedPoint 100 100 101), .lineTo ⟨50, 112.5⟩,
            .lineTo (inscribedPoint 100 100 79), .arcTo arc, .close]⟩ ∧
      arc.center ≠ ⟨50, 50⟩ ∧ arc.pointAt arc.stop ≠ inscribedPoint 100 100 101 ∧
      ¬OnInscribed 100 100 (arc.pointAt arc.stop) := by
  intro guides
  have h1 : guides.raw "adj1" = .ok 0 := congrArg Except.ok (div_one (0 : ℝ))
  have h2 : guides.raw "adj2" = .ok 62500 := congrArg Except.ok (div_one (62500 : ℝ))
  have hw : (0 : ℝ) < 100 := by norm_num
  have hbelow : direction (0 : ℝ) 62500 = 90 := by
    have harg : Complex.arg ⟨0, 62500⟩ = Real.pi / 2 :=
      Complex.arg_eq_pi_div_two_iff.mpr ⟨rfl, by norm_num⟩
    show Complex.arg ⟨0, 62500⟩ * (_ / Real.pi) = 90
    rw [harg, Exact.literal_eq]
    have hpi := Real.pi_ne_zero
    field_simp
    norm_num
  have hsides : (direction (0 : ℝ) 62500 + 11 = 101) ∧ (direction (0 : ℝ) 62500 - 11 = 79) := by
    rw [hbelow]
    norm_num
  have hne := sinCos_sides_ne (direction 0 62500)
  obtain ⟨d, e, hd, he, houtline⟩ :=
    wedgeEllipse_eq (f := ⟨100, 100, guides⟩) h1 h2 hw hw
  have hcircle : ConvertsExactly (100 / 2) (100 / 2) := .inl rfl
  obtain ⟨-, hcenter, -, hback, hoff⟩ := arcFrom_shifted hw hw hne
    (sinCos_parametricAngle (half_pos hw) (half_pos hw) hcircle hd)
    (sinCos_parametricAngle (half_pos hw) (half_pos hw) hcircle he)
  have hcentre : (⟨100 / 2, 100 / 2⟩ : Point ℝ) = ⟨50, 50⟩ := by norm_num
  have htip : (⟨100 / 2 + 100 * 0 / 100000, 100 / 2 + 100 * 62500 / 100000⟩ : Point ℝ)
      = ⟨50, 112.5⟩ := by norm_num
  rw [hcentre] at hcenter
  rw [htip, hsides.1, hsides.2] at houtline
  rw [hsides.1] at hback
  exact ⟨_, hsides.2 ▸ houtline, hcenter, hback, hoff⟩

end Preset.Callout

end ShapeOutline
