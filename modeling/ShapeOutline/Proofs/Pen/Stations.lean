import Mathlib
import ShapeOutline.Proofs.Path.Direction
import ShapeOutline.Proofs.Pen.InBox
import ShapeOutline.Proofs.Scale.Angle

/-!
# Where the pen stops

Instructions that draw take the pen from one point of local space to the next. Lines and curves name the
point. An elliptical arc goes as far as its ellipse does between the two directions; without an ellipse it
goes nowhere.

* `arcTarget`, `Instruction.target?`, `Pen.stations`: where instructions take the pen;
* `Pen.step_target`, `Pen.run_stations`: each leaves one command, which ends there;
* `Path.endPoint_eq`: a path whose commands all have an end point ends at the last one;
* `Path.drawn_stations`: the points of a path that is drawn without a break;
* `arcTarget_quarter_forth`, `arcTarget_quarter_back`: quarter turns from an axis, and the quarters of an
  ellipse.
-/

namespace ShapeOutline

/-! ## Where instructions lead -/

/-- Where an elliptical arc takes a pen that is at `p`. -/
noncomputable def arcTarget (p : Point ℝ) (wr hr start sweep : ℝ) : Point ℝ :=
  if 0 < wr ∧ 0 < hr then
    ellipsePoint (p - ellipsePoint Point.origin wr hr (parametricAngle start wr hr)) wr hr
      (parametricAngle (start + sweep) wr hr)
  else p

/-- Where an instruction that draws takes a pen that is at `p`. -/
noncomputable def Instruction.target? (p : Point ℝ) : Instruction ℝ → Option (Point ℝ)
  | .lineTo x y => some ⟨x, y⟩
  | .cubicTo _ _ _ _ x y => some ⟨x, y⟩
  | .quadTo _ _ x y => some ⟨x, y⟩
  | .arcTo wr hr start sweep => some (arcTarget p wr hr start sweep)
  | _ => none

namespace Pen

/-- The points at which a pen stops that starts at `p`, when all instructions draw. -/
noncomputable def stations (p : Point ℝ) : List (Instruction ℝ) → Option (List (Point ℝ))
  | [] => some []
  | i :: is => (i.target? p).bind fun q => (stations q is).map (q :: ·)

@[simp] theorem stations_nil (p : Point ℝ) : stations p [] = some [] := rfl

@[simp] theorem stations_lineTo (p : Point ℝ) (x y : ℝ) (is : List (Instruction ℝ)) :
    stations p (.lineTo x y :: is) = (stations ⟨x, y⟩ is).map (⟨x, y⟩ :: ·) := rfl

@[simp] theorem stations_arcTo (p : Point ℝ) (wr hr start sweep : ℝ) (is : List (Instruction ℝ)) :
    stations p (.arcTo wr hr start sweep :: is)
      = (stations (arcTarget p wr hr start sweep) is).map (arcTarget p wr hr start sweep :: ·) := rfl

variable {pen : Pen ℝ} {p q : Point ℝ}

/-- An arc in a space with an extent ends at its target. -/
theorem ellipticalArc_target (hpos : pen.position = some p)
    (hscale : 0 < pen.scale.x ∧ 0 < pen.scale.y) (wr hr start sweep : ℝ) :
    ∃ c, pen.ellipticalArc wr hr start sweep = (pen.drawnTo (arcTarget p wr hr start sweep), [c]) ∧
      c.endPoint? = some (pen.toBox (arcTarget p wr hr start sweep)) := by
  by_cases hradii : 0 < wr ∧ 0 < hr
  · obtain ⟨hwr, hhr⟩ := hradii
    rw [ellipticalArc_of_position hpos hscale.1 hscale.2 hwr hhr, arcTarget, if_pos ⟨hwr, hhr⟩]
    exact ⟨_, rfl, congrArg some (pointAt_toBox pen _ wr hr _ _ _)⟩
  · rw [ellipticalArc_of_position_of_not_pos hpos hradii, arcTarget, if_neg hradii]
    exact ⟨_, rfl, rfl⟩

/-- An instruction that draws leaves one command, which ends where the instruction takes the pen. -/
theorem step_target (hpos : pen.position = some p) (hscale : 0 < pen.scale.x ∧ 0 < pen.scale.y)
    {i : Instruction ℝ} (hi : i.target? p = some q) :
    ∃ c, pen.step i = (pen.drawnTo q, [c]) ∧ c.endPoint? = some (pen.toBox q) := by
  have hready := ready_of_position hpos
  cases i with
  | lineTo x y =>
    cases hi
    exact ⟨_, by rw [step, line, hready]; rfl, rfl⟩
  | cubicTo x1 y1 x2 y2 x y =>
    cases hi
    exact ⟨_, by rw [step, cubic, hready]; rfl, rfl⟩
  | quadTo qx qy x y =>
    cases hi
    refine ⟨.cubicTo (pen.toBox (elevate p ⟨qx, qy⟩)) (pen.toBox (elevate ⟨x, y⟩ ⟨qx, qy⟩))
      (pen.toBox ⟨x, y⟩), ?_, rfl⟩
    rw [step, quadratic, hready]
    dsimp only
    rw [cubic, hready]
    rfl
  | arcTo wr hr start sweep =>
    cases hi
    exact ellipticalArc_target hpos hscale wr hr start sweep
  | _ => cases hi

/-- Instructions that draw leave one command each, which ends where the pen stops. -/
theorem run_stations (hpos : pen.position = some p) (hscale : 0 < pen.scale.x ∧ 0 < pen.scale.y)
    {is : List (Instruction ℝ)} {qs : List (Point ℝ)} (his : stations p is = some qs) :
    (pen.run is).2.map Command.endPoint? = qs.map fun q => some (pen.toBox q) := by
  induction is generalizing pen p qs with
  | nil =>
    cases his
    rfl
  | cons i is ih =>
    obtain ⟨q, hi, hrest⟩ := Option.bind_eq_some_iff.mp his
    obtain ⟨rest, hstations, rfl⟩ := Option.map_eq_some_iff.mp hrest
    obtain ⟨c, hstep, hend⟩ := step_target hpos hscale hi
    have hdrawn : (pen.drawnTo q).position = some q := rfl
    have hlater := ih hdrawn hscale hstations
    show ((pen.step i).2 ++ ((pen.step i).1.run is).2).map Command.endPoint? = _
    rw [hstep, List.map_append, hlater, List.map_singleton, hend]
    rfl

end Pen

/-! ## The points of a path -/

theorem Trail.step_pen {t : Trail ℝ} {c : Command ℝ} {p : Point ℝ} (h : c.endPoint? = some p) :
    (t.step c).pen = some p := by
  cases c with
  | close => cases h
  | _ => exact h

namespace Path

variable {p : Path ℝ} {qs : List (Point ℝ)}

theorem vertices_eq (h : p.commands.map Command.endPoint? = qs.map some) : p.vertices = qs := by
  have hpoints : p.vertices = (p.commands.map Command.endPoint?).filterMap id := by
    rw [List.filterMap_map]
    rfl
  rw [hpoints, h, List.filterMap_map]
  exact List.filterMap_some

/-- When every command has an end point, the path ends at the last one. -/
theorem endPoint_eq (h : p.commands.map Command.endPoint? = qs.map some) :
    p.endPoint = qs.getLast? := by
  obtain ⟨cs⟩ := p
  unfold endPoint trail
  dsimp only at h ⊢
  induction cs using List.reverseRecOn with
  | nil =>
    obtain rfl : qs = [] := List.map_eq_nil_iff.mp h.symm
    rfl
  | append_singleton cs c =>
    rw [List.map_append, List.map_singleton] at h
    obtain ⟨before, last, rfl, -, hlast⟩ := List.map_eq_append_iff.mp h.symm
    obtain ⟨q, rfl, hq⟩ := List.map_eq_singleton_iff.mp hlast
    rw [List.foldl_concat, Trail.step_pen hq.symm, List.getLast?_concat]

/-- The points of a path that begins at a point and goes on drawing. -/
theorem drawn_stations (x y : ℝ) {is : List (Instruction ℝ)}
    (h : Pen.stations ⟨x, y⟩ is = some qs) :
    (Path.drawn (.moveTo x y :: is)).vertices = ⟨x, y⟩ :: qs ∧
      (Path.drawn (.moveTo x y :: is)).startPoint = some ⟨x, y⟩ ∧
      (Path.drawn (.moveTo x y :: is)).endPoint = (⟨x, y⟩ :: qs).getLast? := by
  have hbox (q : Point ℝ) : (Pen.plain.movedTo ⟨x, y⟩).toBox q = q :=
    Pen.toBox_of_scale_one Pen.plain_scale q
  have hscale : 0 < (Pen.plain : Pen ℝ).scale.x ∧ 0 < (Pen.plain : Pen ℝ).scale.y := by
    rw [Pen.plain_scale]
    exact ⟨one_pos, one_pos⟩
  have hpos : (Pen.plain.movedTo ⟨x, y⟩ : Pen ℝ).position = some ⟨x, y⟩ := rfl
  have hrun := Pen.run_stations hpos hscale h
  simp only [hbox] at hrun
  have hpoints : (Path.drawn (.moveTo x y :: is)).commands.map Command.endPoint?
      = (⟨x, y⟩ :: qs).map some := by
    show some (Pen.plain.toBox ⟨x, y⟩)
      :: ((Pen.plain.movedTo ⟨x, y⟩).run is).2.map Command.endPoint? = _
    rw [hrun, Pen.toBox_of_scale_one Pen.plain_scale]
    rfl
  refine ⟨vertices_eq hpoints, ?_, endPoint_eq hpoints⟩
  show some (Pen.plain.toBox ⟨x, y⟩) = _
  rw [Pen.toBox_of_scale_one Pen.plain_scale]

end Path

/-! ## Quarter turns -/

variable {wr hr start : ℝ}

/-- Without an ellipse, an arc goes nowhere. -/
theorem arcTarget_of_not_pos (h : ¬(0 < wr ∧ 0 < hr)) (p : Point ℝ) (start sweep : ℝ) :
    arcTarget p wr hr start sweep = p := if_neg h

variable (p : Point ℝ)

/-- Along the axes, an arc goes as far as the sines and cosines of its directions say. -/
theorem arcTarget_quartered (hwr : 0 < wr) (hhr : 0 < hr) {sweep : ℝ} (hstart : Quartered start)
    (hsweep : Quartered sweep) :
    arcTarget p wr hr start sweep
      = ⟨p.x + wr * ((sinCos (start + sweep)).2 - (sinCos start).2),
          p.y + hr * ((sinCos (start + sweep)).1 - (sinCos start).1)⟩ := by
  rw [arcTarget, if_pos ⟨hwr, hhr⟩, parametricAngle_quartered hstart,
    parametricAngle_quartered (hstart.add hsweep), ellipsePoint_origin]
  ext
  · show p.x - wr * _ + wr * _ = p.x + wr * (_ - _)
    ring
  · show p.y - hr * _ + hr * _ = p.y + hr * (_ - _)
    ring

/-- A quarter turn clockwise from an axis. -/
theorem arcTarget_quarter_forth (hwr : 0 < wr) (hhr : 0 < hr) (hstart : Quartered start) :
    arcTarget p wr hr start 90
      = ⟨p.x - wr * ((sinCos start).1 + (sinCos start).2),
          p.y + hr * ((sinCos start).2 - (sinCos start).1)⟩ := by
  have hturned : sinCos (start + 90) = ((sinCos start).2, -(sinCos start).1) := by
    have hsub := sinCos_quarter_turn_sub (-start)
    rwa [sinCos_neg, sub_neg_eq_add, add_comm] at hsub
  have hquarter : Quartered 90 := ⟨1, by norm_num⟩
  rw [arcTarget_quartered p hwr hhr hstart hquarter, hturned]
  ext
  · show p.x + wr * (-(sinCos start).1 - (sinCos start).2) = _
    ring
  · rfl

/-- A quarter turn counterclockwise from an axis. -/
theorem arcTarget_quarter_back (hwr : 0 < wr) (hhr : 0 < hr) (hstart : Quartered start) :
    arcTarget p wr hr start (-90)
      = ⟨p.x + wr * ((sinCos start).1 - (sinCos start).2),
          p.y - hr * ((sinCos start).1 + (sinCos start).2)⟩ := by
  have hturned : sinCos (start + -90) = (-(sinCos start).2, (sinCos start).1) := by
    have hsub := sinCos_neg (90 - start)
    rwa [sinCos_quarter_turn_sub, neg_sub, sub_eq_add_neg] at hsub
  have hquarter : Quartered (-90) := ⟨-1, by norm_num⟩
  rw [arcTarget_quartered p hwr hhr hstart hquarter, hturned]
  ext
  · rfl
  · show p.y + hr * (-(sinCos start).2 - (sinCos start).1) = _
    ring

/-- Sine and cosine of the directions along the axes. -/
theorem sinCos_axes :
    sinCos (0 : ℝ) = (0, 1) ∧ sinCos (90 : ℝ) = (1, 0) ∧ sinCos (180 : ℝ) = (0, -1) ∧
      sinCos (270 : ℝ) = (-1, 0) := by
  have hright : sinCos (0 : ℝ) = (0, 1) := by
    rw [sinCos_eq, zero_mul, Real.sin_zero, Real.cos_zero]
  have hdown : sinCos (90 : ℝ) = (1, 0) := by
    have hsub := sinCos_quarter_turn_sub 0
    rwa [sub_zero, hright] at hsub
  have hleft : sinCos (180 : ℝ) = (0, -1) := by
    have hsub := sinCos_half_turn_sub 0
    rwa [sub_zero, hright] at hsub
  have hup : sinCos (270 : ℝ) = (-1, 0) := by
    have hsub := sinCos_half_turn_sub (-90)
    have hturn : (180 : ℝ) - -90 = 270 := by norm_num
    rwa [hturn, sinCos_neg, hdown, neg_zero] at hsub
  exact ⟨hright, hdown, hleft, hup⟩

/-- The four quarters of an ellipse, each drawn clockwise. -/
theorem arcTarget_quarters_forth (hwr : 0 < wr) (hhr : 0 < hr) :
    (∀ p, arcTarget p wr hr 0 90 = ⟨p.x - wr, p.y + hr⟩) ∧
      (∀ p, arcTarget p wr hr 90 90 = ⟨p.x - wr, p.y - hr⟩) ∧
      (∀ p, arcTarget p wr hr 180 90 = ⟨p.x + wr, p.y - hr⟩) ∧
      ∀ p, arcTarget p wr hr 270 90 = ⟨p.x + wr, p.y + hr⟩ := by
  obtain ⟨hright, hdown, hleft, hup⟩ := sinCos_axes
  refine ⟨fun p => ?_, fun p => ?_, fun p => ?_, fun p => ?_⟩
  · rw [arcTarget_quarter_forth p hwr hhr ⟨0, by norm_num⟩, hright]
    ring_nf
  · rw [arcTarget_quarter_forth p hwr hhr ⟨1, by norm_num⟩, hdown]
    ring_nf
  · rw [arcTarget_quarter_forth p hwr hhr ⟨2, by norm_num⟩, hleft]
    ring_nf
  · rw [arcTarget_quarter_forth p hwr hhr ⟨3, by norm_num⟩, hup]
    ring_nf

/-- The four quarters, each drawn counterclockwise. -/
theorem arcTarget_quarters_back (hwr : 0 < wr) (hhr : 0 < hr) :
    (∀ p, arcTarget p wr hr 0 (-90) = ⟨p.x - wr, p.y - hr⟩) ∧
      (∀ p, arcTarget p wr hr 90 (-90) = ⟨p.x + wr, p.y - hr⟩) ∧
      (∀ p, arcTarget p wr hr 180 (-90) = ⟨p.x + wr, p.y + hr⟩) ∧
      ∀ p, arcTarget p wr hr 270 (-90) = ⟨p.x - wr, p.y + hr⟩ := by
  obtain ⟨hright, hdown, hleft, hup⟩ := sinCos_axes
  refine ⟨fun p => ?_, fun p => ?_, fun p => ?_, fun p => ?_⟩
  · rw [arcTarget_quarter_back p hwr hhr ⟨0, by norm_num⟩, hright]
    ring_nf
  · rw [arcTarget_quarter_back p hwr hhr ⟨1, by norm_num⟩, hdown]
    ring_nf
  · rw [arcTarget_quarter_back p hwr hhr ⟨2, by norm_num⟩, hleft]
    ring_nf
  · rw [arcTarget_quarter_back p hwr hhr ⟨3, by norm_num⟩, hup]
    ring_nf

end ShapeOutline
