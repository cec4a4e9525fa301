import Mathlib
import ShapeOutline.Preset
import ShapeOutline.Proofs.Path.Polygon
import ShapeOutline.Proofs.Pen.Consecutive
import ShapeOutline.Proofs.Preset.Sectors

/-!
# Holes that stay open

A figure inside another one is a hole when the two run in opposite senses, in whatever order they are drawn.
Frames, rings and the sign of prohibition have holes whose size comes from a guide. The figure around them
runs clockwise in all of them, and no guide makes a hole run clockwise.

* `Path.rounds`: the path along some arcs, each of them closed;
* `Turn`, `Path.drawn_turns`: ways along ellipses around the centre of a box, and what a pen leaves of them;
* `Path.IsRing`: an ellipse with arcs that run against it;
* `Border.frame_eq_cycles`, `Round.donut_eq_turns`, `Round.noSmoking_eq_turns`: the formulas;
* `Kind.holes_stay_open`: the outlines of the kinds.
-/

namespace ShapeOutline

open Preset.Round (pointSeen thickness)

/-! ## Closed arcs -/

section

variable {α : Type} [Scalar α]

/-- The commands along an arc and straight back to where it began. An arc without an extent is a line that
goes nowhere. -/
def Command.closedArc (a : Arc α) : List (Command α) := [.moveTo a.startPoint, .ofArc a, .close]

/-- The path along some closed arcs, one after the other. -/
def Path.rounds (arcs : List (Arc α)) : Path α := ⟨arcs.flatMap Command.closedArc⟩

end

/-- Whatever its radii are, a pen in the box leaves an elliptical arc around its centre. -/
theorem Pen.ellipticalArc_eq_ofArc {pen : Pen ℝ} {p : Point ℝ} (hpos : pen.position = some p)
    (hscale : pen.scale = ⟨1, 1⟩) (wr hr start sweep : ℝ) :
    pen.ellipticalArc wr hr start sweep
      = (pen.drawnTo (arcTarget p wr hr start sweep), [.ofArc ⟨arcCenter p wr hr start, wr, hr,
          parametricAngle start wr hr, parametricAngle (start + sweep) wr hr⟩]) := by
  by_cases hradii : 0 < wr ∧ 0 < hr
  · rw [ellipticalArc_in_box hpos hscale hradii.1 hradii.2, ofArc_of_pos hradii.1 hradii.2,
      arcTarget_of_pos _ _ _ hradii.1 hradii.2]
    rfl
  · rw [ellipticalArc_of_position_of_not_pos hpos hradii, arcTarget_of_not_pos hradii, Command.ofArc,
      if_pos ((isDegenerate_iff _).mpr hradii), toBox_of_scale_one hscale]
    exact congrArg (fun q => (pen.drawnTo p, [Command.lineTo q])) (ellipsePoint_sub p wr hr _).symm

/-- A way along the ellipse that keeps a distance from the sides of a box, from the point that is seen from
the centre in a direction. -/
structure Turn where
  inset : ℝ
  start : ℝ
  sweep : ℝ

namespace Turn

variable (f : Frame ℝ) (t : Turn)

noncomputable def instructions : List (Instruction ℝ) :=
  let rx := f.wd2 - t.inset
  let ry := f.hd2 - t.inset
  let p := pointSeen f.hc f.vc rx ry t.start
  [.moveTo p.x p.y, .arcTo rx ry t.start t.sweep, .close]

noncomputable def arc : Arc ℝ :=
  let rx := f.w / 2 - t.inset
  let ry := f.h / 2 - t.inset
  ⟨⟨f.w / 2, f.h / 2⟩, rx, ry, parametricAngle t.start rx ry, parametricAngle (t.start + t.sweep) rx ry⟩

theorem arc_turns (n : ℤ) (hsweep : t.sweep = 360 * n) : (t.arc f).stop - (t.arc f).start = 360 * n := by
  show parametricAngle (t.start + t.sweep) _ _ - _ = _
  rw [hsweep, parametricAngle_add_turns]
  exact add_sub_cancel_left _ _

theorem arc_back (hsweep : t.sweep ≤ 0) : (t.arc f).stop - (t.arc f).start ≤ 0 := by
  have hmono := (parametricAngle_strictMono (f.w / 2 - t.inset) (f.h / 2 - t.inset)).monotone
  exact sub_nonpos.mpr (hmono (add_le_of_nonpos_right hsweep))

/-- What a pen in the box leaves of such a way. -/
theorem run_instructions {pen : Pen ℝ} (hscale : pen.scale = ⟨1, 1⟩) (t : Turn) :
    (pen.run (t.instructions f)).2 = Command.closedArc (t.arc f) := by
  obtain ⟨hhc, hvc, hwd2, hhd2⟩ := f.halves
  rw [instructions, hhc, hvc, hwd2, hhd2]
  let p := pointSeen (f.w / 2) (f.h / 2) (f.w / 2 - t.inset) (f.h / 2 - t.inset) t.start
  have hpos : (pen.movedTo p).position = some p := rfl
  -- the ellipse finds its centre again from the point at which it begins
  have hcenter : arcCenter p (f.w / 2 - t.inset) (f.h / 2 - t.inset) t.start = ⟨f.w / 2, f.h / 2⟩ :=
    ellipsePoint_sub_origin _ _ _ _
  have harc := Pen.ellipticalArc_eq_ofArc hpos hscale (f.w / 2 - t.inset)
    (f.h / 2 - t.inset) t.start t.sweep
  rw [hcenter] at harc
  show .moveTo (pen.toBox p) :: (((pen.movedTo p).ellipticalArc (f.w / 2 - t.inset)
    (f.h / 2 - t.inset) t.start t.sweep).2 ++ ((((pen.movedTo p).ellipticalArc (f.w / 2 - t.inset)
      (f.h / 2 - t.inset) t.start t.sweep).1.closed).2 ++ [])) = _
  rw [harc, Pen.toBox_of_scale_one hscale]
  rfl

end Turn

theorem Path.drawn_turns (f : Frame ℝ) (turns : List Turn) :
    Path.drawn (turns.flatMap (Turn.instructions f)) = rounds (turns.map (Turn.arc f)) := by
  have hstays (pen : Pen ℝ) (t : Turn) : (pen.run (t.instructions f)).1.scale = pen.scale :=
    pen.run_scale (List.all_eq_true.mp rfl)
  have hrun := Pen.run_figures hstays (Turn.run_instructions f) Pen.plain_scale turns
  rw [rounds, List.flatMap_map]
  exact congrArg Path.mk hrun

/-! ## Rings -/

/-- The path makes a full turn clockwise along the ellipse that touches the sides of a box. What follows are
arcs along the ellipse that keeps the distance `t` from the sides, and none of them runs clockwise. -/
structure Path.IsRing (p : Path ℝ) (w h t : ℝ) (outer : Arc ℝ) (inner : List (Arc ℝ)) : Prop where
  commands : p.commands
    = .moveTo outer.startPoint :: .arcTo outer :: .close :: (Path.rounds inner).commands
  outer_center : outer.center = ⟨w / 2, h / 2⟩
  outer_rx : outer.rx = w / 2
  outer_ry : outer.ry = h / 2
  outer_turns : outer.stop - outer.start = 360
  inner_center : ∀ a ∈ inner, a.center = outer.center
  inner_rx : ∀ a ∈ inner, a.rx = outer.rx - t
  inner_ry : ∀ a ∈ inner, a.ry = outer.ry - t
  inner_back : ∀ a ∈ inner, a.stop - a.start ≤ 0

/-- The turn clockwise that touches the sides of a box. -/
def Turn.outer : Turn := ⟨0, 180, 360⟩

theorem Turn.isRing {f : Frame ℝ} (hw : 0 < f.w) (hh : 0 < f.h) {t : ℝ} (turns : List Turn)
    (hinset : ∀ u ∈ turns, u.inset = t) (hback : ∀ u ∈ turns, u.sweep ≤ 0) :
    (Path.drawn ((outer :: turns).flatMap (Turn.instructions f))).IsRing f.w f.h t (outer.arc f)
      (turns.map (Turn.arc f)) := by
  have hrx : (outer.arc f).rx = f.w / 2 := sub_zero _
  have hry : (outer.arc f).ry = f.h / 2 := sub_zero _
  rw [Path.drawn_turns]
  constructor
  case commands =>
    have hdrawn : Command.ofArc (outer.arc f) = .arcTo (outer.arc f) :=
      Pen.ofArc_of_pos (hrx ▸ half_pos hw) (hry ▸ half_pos hh)
    rw [List.map_cons, ← hdrawn]
    rfl
  case outer_center => rfl
  case outer_rx => exact hrx
  case outer_ry => exact hry
  case outer_turns =>
    have hturn := outer.arc_turns f 1 (by rw [Int.cast_one, mul_one]; rfl)
    rwa [Int.cast_one, mul_one] at hturn
  case inner_center => exact List.forall_mem_map.mpr fun u _ => rfl
  case inner_rx =>
    refine List.forall_mem_map.mpr fun u hu => ?_
    rw [hrx, ← hinset u hu]
    rfl
  case inner_ry =>
    refine List.forall_mem_map.mpr fun u hu => ?_
    rw [hry, ← hinset u hu]
    rfl
  case inner_back => exact List.forall_mem_map.mpr fun u hu => u.arc_back f (hback u hu)

/-! ## The formulas -/

namespace Preset

open Scalar (direction)

variable {f : Frame ℝ} {names : List String} {name : String}

namespace Round

/-- The thickness of a ring is read from its guide. -/
theorem shortShare_eq_ok (h : f.guides.Declares names) (hname : name ∈ names) :
    f.shortShare name (@OfNat.ofNat ℝ 50000 (Scalar.literal 50000)) = .ok (thickness f (f.value name)) :=
  Frame.shortShare_eq h hname _

/-- A turn begins at the leftmost point of its ellipse. -/
theorem instructions_left (t sweep : ℝ) :
    Turn.instructions f ⟨t, 180, sweep⟩
      = [.moveTo t f.vc, .arcTo (f.wd2 - t) (f.hd2 - t) 180 sweep, .close] := by
  obtain ⟨hhc, -, hwd2, -⟩ := f.halves
  obtain ⟨-, -, hleft, -⟩ := sinCos_axes
  have haxis : parametricAngle 180 (f.wd2 - t) (f.hd2 - t) = 180 :=
    parametricAngle_quartered ⟨2, by norm_num⟩ _ _
  have hpoint : pointSeen f.hc f.vc (f.wd2 - t) (f.hd2 - t) 180 = ⟨t, f.vc⟩ := by
    rw [pointSeen, haxis, ellipsePoint, hleft, hhc, hwd2]
    ext
    · show f.w / 2 + (f.w / 2 - t) * -1 = t
      ring
    · show f.vc + (f.hd2 - t) * 0 = f.vc
      ring
  rw [Turn.instructions, hpoint]

theorem instructions_outer :
    Turn.instructions f .outer = [.moveTo 0 f.vc, .arcTo f.wd2 f.hd2 180 360, .close] := by
  rw [Turn.outer, instructions_left, sub_zero, sub_zero]

theorem donut_eq_turns (h : f.guides.Declares ["adj"]) :
    donut f = .ok (.drawn ([Turn.outer, ⟨thickness f (f.value "adj"), 180, -360⟩].flatMap
      (Turn.instructions f))) := by
  rw [donut, shortShare_eq_ok h (.head _), Guided.ok_bind, Exact.literal_zero, Exact.literal_ofNat 180,
    Exact.literal_ofNat 360, List.flatMap_cons, List.flatMap_singleton, instructions_outer,
    instructions_left]
  rfl

/-- What lies to the right is seen at most a quarter turn clockwise. -/
theorem direction_le_quarter {x y : ℝ} (hx : 0 ≤ x) : direction x y ≤ 90 := by
  have hpi := Real.pi_pos
  have harg : Complex.arg ⟨x, y⟩ ≤ Real.pi / 2 :=
    (abs_le.mp (Complex.abs_arg_le_pi_div_two_iff.mpr hx)).2
  show Complex.arg ⟨x, y⟩ * (_ / Real.pi) ≤ 90
  rw [Exact.literal_ofNat 180]
  calc Complex.arg ⟨x, y⟩ * (180 / Real.pi) ≤ Real.pi / 2 * (180 / Real.pi) := by gcongr
    _ = 90 := by field_simp; norm_num

/-- A ring is at most as thick as half of each side of its box. -/
theorem thickness_le_half (hw : 0 < f.w) (hh : 0 < f.h) (a : ℝ) :
    thickness f a ≤ f.w / 2 ∧ thickness f a ≤ f.h / 2 := by
  obtain ⟨share, -, hshare, hthickness⟩ := exists_thickness_eq f a
  have hshort : 0 ≤ min f.w f.h := le_min hw.le hh.le
  have hhalf : thickness f a ≤ min f.w f.h / 2 := by
    rw [hthickness, div_eq_mul_one_div]
    exact mul_le_mul_of_nonneg_left hshare hshort
  exact ⟨hhalf.trans (by gcongr; exact min_le_left _ _), hhalf.trans (by gcongr; exact min_le_right _ _)⟩

theorem noSmoking_eq_turns (h : f.guides.Declares ["adj"]) (hw : 0 < f.w) (hh : 0 < f.h) :
    let t := thickness f (f.value "adj")
    ∃ start sweep, sweep ≤ 0 ∧ noSmoking f = .ok (.drawn
      ([Turn.outer, ⟨t, start, sweep⟩, ⟨t, start - 180, sweep⟩].flatMap (Turn.instructions f))) := by
  intro t
  obtain ⟨-, -, hwd2, hhd2⟩ := f.halves
  obtain ⟨hwide, hhigh⟩ := thickness_le_half hw hh (f.value "adj")
  rw [noSmoking, shortShare_eq_ok h (.head _), Guided.ok_bind]
  dsimp only
  generalize hreach : (Scalar.quotient _ _ : ℝ) = reach
  generalize hbar : direction reach _ = bar
  -- the inner ellipse is not turned inside out, so half the bar is seen within a quarter turn
  have hinner : 0 ≤ (f.wd2 - t) * (f.hd2 - t) := by
    rw [hwd2, hhd2]
    exact mul_nonneg (sub_nonneg.mpr hwide) (sub_nonneg.mpr hhigh)
  have hreach0 : 0 ≤ reach := by
    rw [← hreach, Exact.quotient_eq]
    exact div_nonneg hinner (Real.sqrt_nonneg _)
  have hquarter : bar ≤ 90 := hbar ▸ direction_le_quarter hreach0
  rw [Exact.literal_zero, Exact.literal_ofNat 2, Exact.literal_ofNat 180, Exact.literal_ofNat 360]
  refine ⟨direction f.w f.h - bar, -180 + 2 * bar, by linarith, ?_⟩
  rw [List.flatMap_cons, instructions_outer]
  rfl

end Round

/-- A frame is the box with a rectangle in it that is travelled backwards. -/
theorem Border.frame_eq_cycles (h : f.guides.Declares ["adj1"]) :
    let t := thickness f (f.value "adj1")
    ∃ inner, frame f = .ok (.cycles [rectangle 0 0 f.w f.h, inner]) ∧
      RunsAgainst 0 inner (rectangle t t (f.w - t) (f.h - t)) := by
  intro t
  refine ⟨[⟨t, t⟩, ⟨t, f.h - t⟩, ⟨f.w - t, f.h - t⟩, ⟨f.w - t, t⟩], ?_, Nat.zero_lt_succ _, rfl⟩
  rw [frame, Round.shortShare_eq_ok h (.head _), Guided.ok_bind, Exact.literal_zero]
  exact congrArg Except.ok (Path.drawn_polygons [[(0, 0), (f.w, 0), (f.w, f.h), (0, f.h)],
    [(t, t), (t, f.h - t), (f.w - t, f.h - t), (f.w - t, t)]])

end Preset

/-- The rectangle in a frame of the thickness `t` takes its area from the frame. -/
theorem RunsAgainst.signedArea_hole {w h t : ℝ} {inner : List (Point ℝ)} {k : ℕ}
    (hagainst : RunsAgainst k inner (rectangle t t (w - t) (h - t))) :
    signedArea inner = -((w - 2 * t) * (h - 2 * t)) := by
  rw [hagainst.signedArea_eq, signedArea_rectangle]
  ring

/-! ## The kinds -/

namespace Kind

open Preset.Round (thickness_le_half)

/-- The kinds whose holes are as large as a guide leaves them. -/
inductive HasHole : Kind → Prop
  | frame : HasHole .frame
  | donut : HasHole .donut
  | noSmoking : HasHole .noSmoking

/-- What is drawn inside the figure that touches the sides of the box runs against it: a rectangle in a
frame, a full turn in a ring, and a segment on each side of the bar in a sign of prohibition. -/
def KeepsHole (f : Frame ℝ) (p : Path ℝ) : Kind → Prop
  | frame =>
    let t := thickness f (f.value "adj1")
    ∃ outer inner, p = .cycles [outer, inner] ∧ outer = rectangle 0 0 f.w f.h ∧
      RunsAgainst 0 inner (rectangle t t (f.w - t) (f.h - t)) ∧
      0 < signedArea outer ∧ signedArea inner ≤ 0 ∧
      signedArea outer + signedArea inner = f.w * f.h - (f.w - 2 * t) * (f.h - 2 * t)
  | donut =>
    ∃ outer inner, p.IsRing f.w f.h (thickness f (f.value "adj")) outer [inner] ∧
      inner.stop - inner.start = -360
  | noSmoking =>
    ∃ outer inner inner', p.IsRing f.w f.h (thickness f (f.value "adj")) outer [inner, inner']
  | _ => False

variable {w h : ℝ}

/-- Frames, rings and signs of prohibition in a box with an extent. The outer figure runs clockwise, and
whatever the guide says nothing inside it does. -/
theorem holes_stay_open {k : Kind} (hk : k.HasHole) (hw : 0 < w) (hh : 0 < h) {guides : GuideSet ℝ}
    (hguides : guides.Declares ((k.guides : List (GuideDecl ℝ)).map GuideDecl.name)) :
    ∃ p, k.outline w h guides = .ok p ∧ k.KeepsHole ⟨w, h, guides⟩ p := by
  let f : Frame ℝ := ⟨w, h, guides⟩
  cases hk with
  | frame =>
    let t := thickness f (f.value "adj1")
    obtain ⟨inner, houtline, hagainst⟩ := Preset.Border.frame_eq_cycles (f := f) hguides
    obtain ⟨hwide, hhigh⟩ := thickness_le_half (f := f) hw hh (f.value "adj1")
    have houter : signedArea (rectangle 0 0 w h) = w * h := by
      rw [signedArea_rectangle, sub_zero, sub_zero]
    have hhole : 0 ≤ (w - 2 * t) * (h - 2 * t) :=
      mul_nonneg (by linarith) (by linarith)
    refine ⟨_, houtline, _, inner, rfl, rfl, hagainst, houter ▸ mul_pos hw hh, ?_, ?_⟩
    · rw [hagainst.signedArea_hole]
      exact neg_nonpos.mpr hhole
    · rw [houter, hagainst.signedArea_hole]
      exact (sub_eq_add_neg _ _).symm
  | donut =>
    have hback : (-360 : ℝ) ≤ 0 := by norm_num
    have hring := Turn.isRing (f := f) hw hh [⟨thickness f (f.value "adj"), 180, -360⟩]
      (List.forall_mem_singleton.mpr rfl) (List.forall_mem_singleton.mpr hback)
    refine ⟨_, Preset.Round.donut_eq_turns hguides, _, _, hring, ?_⟩
    have hturn := Turn.arc_turns f ⟨thickness f (f.value "adj"), 180, -360⟩ (-1) (by norm_num)
    rw [hturn]
    norm_num
  | noSmoking =>
    obtain ⟨start, sweep, hback, houtline⟩ := Preset.Round.noSmoking_eq_turns (f := f) hguides hw hh
    have hring := Turn.isRing (f := f) hw hh
      [⟨thickness f (f.value "adj"), start, sweep⟩, ⟨thickness f (f.value "adj"), start - 180, sweep⟩]
      (List.forall_mem_cons.mpr ⟨rfl, List.forall_mem_singleton.mpr rfl⟩)
      (List.forall_mem_cons.mpr ⟨hback, List.forall_mem_singleton.mpr hback⟩)
    exact ⟨_, houtline, _, _, _, hring⟩

/-- A ring of 20 by 10 that takes a quarter of the short side has a hole of 15 by 5. -/
theorem holes_stay_open_donut :
    let guides : GuideSet ℝ := ⟨⟨1⟩, [("adj", 25000)]⟩
    donut.HasHole ∧ (0 : ℝ) < 20 ∧ (0 : ℝ) < 10 ∧
      guides.Declares ((donut.guides : List (GuideDecl ℝ)).map GuideDecl.name) ∧
      ∃ p outer inner, donut.outline 20 10 guides = .ok p ∧ p.IsRing 20 10 (5 / 2) outer [inner] ∧
        inner.stop - inner.start = -360 := by
  intro guides
  have hw : (0 : ℝ) < 20 := by norm_num
  have hh : (0 : ℝ) < 10 := by norm_num
  have hguides : guides.Declares ((donut.guides : List (GuideDecl ℝ)).map GuideDecl.name) :=
    List.forall_mem_singleton.mpr ⟨_, rfl⟩
  have hthickness : thickness (⟨20, 10, guides⟩ : Frame ℝ) ((⟨20, 10, guides⟩ : Frame ℝ).value "adj")
      = 5 / 2 := by
    have hvalue : (⟨20, 10, guides⟩ : Frame ℝ).value "adj" = 25000 := div_one _
    have hpin : Scalar.pin (@OfNat.ofNat ℝ 0 (Scalar.literal 0)) 25000
        (@OfNat.ofNat ℝ 50000 (Scalar.literal 50000)) = 25000 := by
      unfold Scalar.pin
      rw [Exact.literal_zero, Exact.literal_eq]
      norm_num
    show min 20 10 * Scalar.pin _ _ _ / _ = _
    rw [hvalue, hpin, Exact.literal_eq]
    norm_num
  obtain ⟨p, houtline, outer, inner, hring, hback⟩ := holes_stay_open .donut hw hh hguides
  rw [hthickness] at hring
  exact ⟨.donut, hw, hh, hguides, p, outer, inner, houtline, hring, hback⟩

end Kind

end ShapeOutline
