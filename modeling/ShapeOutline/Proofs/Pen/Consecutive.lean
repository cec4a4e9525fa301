import Mathlib
import ShapeOutline.Proofs.Path.Turning
import ShapeOutline.Proofs.Pen.Stations

/-!
# Arcs one after the other

An elliptical arc is told by its radii, the direction in which it starts and how far it sweeps. Its centre
is found again from where the pen is, each time. An arc that goes on in the direction in which another one
ended, with the radii of that one, finds the same centre, so the two are one arc that sweeps as far as both.

* `arcCenter`, `arcCenter_arcTarget`: the centre of an arc, which is the same seen from where the arc ends;
* `arcTarget_add`, `arcTarget_turns`: where arcs lead that follow each other, and full turns;
* `Pen.step_arcTo_pen`, `Pen.step_arcTo_commands`: the pen after an arc, and what it leaves in a space with
  an extent;
* `Pen.run_arcs`, `Pen.arcs_compose`: any number of arcs, and two of them with what they leave.
-/

namespace ShapeOutline

/-! ## One ellipse -/

/-- The centre of the ellipse on which `p` is seen in a direction. -/
noncomputable def arcCenter (p : Point ℝ) (wr hr start : ℝ) : Point ℝ :=
  p - ellipsePoint Point.origin wr hr (parametricAngle start wr hr)

theorem ellipsePoint_sub_origin (center : Point ℝ) (rx ry deg : ℝ) :
    ellipsePoint center rx ry deg - ellipsePoint Point.origin rx ry deg = center := by
  rw [ellipsePoint_origin]
  exact congrArg₂ Point.mk (add_sub_cancel_right _ _) (add_sub_cancel_right _ _)

theorem ellipsePoint_add_turns (center : Point ℝ) (rx ry deg : ℝ) (n : ℤ) :
    ellipsePoint center rx ry (deg + 360 * n) = ellipsePoint center rx ry deg := by
  unfold ellipsePoint
  rw [sinCos_add_turns]

variable {wr hr : ℝ} (p : Point ℝ) (start sweep sweep' : ℝ)

theorem arcTarget_of_pos (hwr : 0 < wr) (hhr : 0 < hr) :
    arcTarget p wr hr start sweep
      = ellipsePoint (arcCenter p wr hr start) wr hr (parametricAngle (start + sweep) wr hr) :=
  if_pos ⟨hwr, hhr⟩

/-- Where an arc ends, its ellipse is found again. -/
theorem arcCenter_arcTarget (hwr : 0 < wr) (hhr : 0 < hr) :
    arcCenter (arcTarget p wr hr start sweep) wr hr (start + sweep) = arcCenter p wr hr start := by
  rw [arcTarget_of_pos p start sweep hwr hhr, arcCenter, ellipsePoint_sub_origin]

/-- Two arcs that follow each other lead as far as one with both sweeps. -/
theorem arcTarget_add :
    arcTarget (arcTarget p wr hr start sweep) wr hr (start + sweep) sweep'
      = arcTarget p wr hr start (sweep + sweep') := by
  by_cases hradii : 0 < wr ∧ 0 < hr
  · obtain ⟨hwr, hhr⟩ := hradii
    rw [arcTarget_of_pos _ _ _ hwr hhr, arcCenter_arcTarget p start sweep hwr hhr, add_assoc,
      ← arcTarget_of_pos _ _ _ hwr hhr]
  · rw [arcTarget_of_not_pos hradii, arcTarget_of_not_pos hradii, arcTarget_of_not_pos hradii]

/-- Full turns lead back. -/
theorem arcTarget_turns (n : ℤ) : arcTarget p wr hr start (360 * n) = p := by
  by_cases hradii : 0 < wr ∧ 0 < hr
  · rw [arcTarget_of_pos _ _ _ hradii.1 hradii.2, parametricAngle_add_turns, ellipsePoint_add_turns,
      arcCenter, Pen.ellipsePoint_sub]
  · rw [arcTarget_of_not_pos hradii]

/-! ## The pen after arcs -/

/-- Arcs of one ellipse, each of which starts in the direction in which the one before it ends. -/
def Instruction.arcs (wr hr start : ℝ) : List ℝ → List (Instruction ℝ)
  | [] => []
  | sweep :: sweeps => .arcTo wr hr start sweep :: arcs wr hr (start + sweep) sweeps

namespace Pen

theorem ready_point (pen : Pen ℝ) : pen.ready.2.1 = pen.position.getD Point.origin := by
  unfold ready
  cases pen.position <;> rfl

theorem ready_drawnTo (pen : Pen ℝ) (p : Point ℝ) : (pen.drawnTo p).ready = (pen.drawnTo p, p, []) :=
  rfl

variable (pen : Pen ℝ)

theorem step_arcTo_pen (wr hr start sweep : ℝ) :
    (pen.step (.arcTo wr hr start sweep)).1
      = pen.ready.1.drawnTo (arcTarget pen.ready.2.1 wr hr start sweep) := by
  show (pen.ellipticalArc wr hr start sweep).1 = _
  by_cases hradii : 0 < wr ∧ 0 < hr
  · rw [ellipticalArc_of_pos pen hradii.1 hradii.2, arcTarget_of_pos _ _ _ hradii.1 hradii.2]
    rfl
  · rw [ellipticalArc_of_not_pos pen hradii, arcTarget_of_not_pos hradii]

/-- In a space with an extent, an elliptical arc is left as an arc around its centre. -/
theorem step_arcTo_commands (hscale : 0 < pen.scale.x ∧ 0 < pen.scale.y) {wr hr : ℝ} (hwr : 0 < wr)
    (hhr : 0 < hr) (start sweep : ℝ) :
    (pen.step (.arcTo wr hr start sweep)).2
      = pen.ready.2.2 ++ [.arcTo ⟨pen.toBox (arcCenter pen.ready.2.1 wr hr start), wr * pen.scale.x,
          hr * pen.scale.y, parametricAngle start wr hr, parametricAngle (start + sweep) wr hr⟩] := by
  have hrx : 0 < wr * pen.scale.x := mul_pos hwr hscale.1
  have hry : 0 < hr * pen.scale.y := mul_pos hhr hscale.2
  show (pen.ellipticalArc wr hr start sweep).2 = _
  rw [ellipticalArc_of_pos pen hwr hhr, ofArc_of_pos hrx hry]
  rfl

/-- After an arc, one that goes on leaves the pen where a single one with both sweeps does. -/
theorem step_arcTo_arcTo (wr hr start sweep sweep' : ℝ) :
    ((pen.step (.arcTo wr hr start sweep)).1.step (.arcTo wr hr (start + sweep) sweep')).1
      = (pen.step (.arcTo wr hr start (sweep + sweep'))).1 := by
  rw [step_arcTo_pen, step_arcTo_pen, step_arcTo_pen, ready_drawnTo]
  exact congrArg pen.ready.1.drawnTo (arcTarget_add _ start sweep sweep')

/-- Any number of arcs leave the pen where a single one with all their sweeps does. -/
theorem run_arcs (wr hr start sweep : ℝ) (sweeps : List ℝ) :
    (pen.run (Instruction.arcs wr hr start (sweep :: sweeps))).1
      = (pen.step (.arcTo wr hr start (sweep :: sweeps).sum)).1 := by
  induction sweeps generalizing pen start sweep with
  | nil =>
    rw [List.sum_singleton]
    rfl
  | cons sweep' sweeps ih =>
    show ((pen.step (.arcTo wr hr start sweep)).1.run
      (Instruction.arcs wr hr (start + sweep) (sweep' :: sweeps))).1 = _
    rw [ih, step_arcTo_arcTo, ← List.sum_cons]

/-- The arc that goes on is left around the same centre. -/
theorem step_arcTo_arcTo_commands (hscale : 0 < pen.scale.x ∧ 0 < pen.scale.y) {wr hr : ℝ}
    (hwr : 0 < wr) (hhr : 0 < hr) (start sweep sweep' : ℝ) :
    ((pen.step (.arcTo wr hr start sweep)).1.step (.arcTo wr hr (start + sweep) sweep')).2
      = [.arcTo ⟨pen.toBox (arcCenter pen.ready.2.1 wr hr start), wr * pen.scale.x, hr * pen.scale.y,
          parametricAngle (start + sweep) wr hr,
          parametricAngle (start + (sweep + sweep')) wr hr⟩] := by
  have hsame : (pen.step (.arcTo wr hr start sweep)).1.scale = pen.scale := pen.step_scale rfl
  have hspace := hscale
  rw [← hsame] at hspace
  rw [step_arcTo_commands _ hspace hwr hhr, toBox, hsame, step_arcTo_pen, ready_drawnTo]
  dsimp only
  rw [arcCenter_arcTarget _ _ _ hwr hhr, add_assoc]
  rfl

/-- In a space with an extent, an arc and another one that goes on in the direction in which it ends are one
arc that sweeps as far as both, and leave the pen alike. All of them have one centre. An arc that makes full
turns leaves the pen where it was, which is the origin when it was up. -/
theorem arcs_compose (hscale : 0 < pen.scale.x ∧ 0 < pen.scale.y) (wr hr start sweep sweep' : ℝ) :
    let first := pen.step (.arcTo wr hr start sweep)
    let second := first.1.step (.arcTo wr hr (start + sweep) sweep')
    let whole := pen.step (.arcTo wr hr start (sweep + sweep'))
    second.1 = whole.1 ∧
      (0 < wr → 0 < hr → ∃ (center : Point ℝ) (t₀ t₁ t₂ : ℝ),
        let arc (s t : ℝ) : Arc ℝ := ⟨pen.toBox center, wr * pen.scale.x, hr * pen.scale.y, s, t⟩
        first.2 = pen.ready.2.2 ++ [.arcTo (arc t₀ t₁)] ∧ second.2 = [.arcTo (arc t₁ t₂)] ∧
          whole.2 = pen.ready.2.2 ++ [.arcTo (arc t₀ t₂)]) ∧
      ∀ n : ℤ, (pen.step (.arcTo wr hr start (360 * n))).1.position
        = some (pen.position.getD Point.origin) := by
  refine ⟨pen.step_arcTo_arcTo wr hr start sweep sweep', fun hwr hhr => ?_, fun n => ?_⟩
  · exact ⟨arcCenter pen.ready.2.1 wr hr start, parametricAngle start wr hr,
      parametricAngle (start + sweep) wr hr, parametricAngle (start + (sweep + sweep')) wr hr,
      pen.step_arcTo_commands hscale hwr hhr start sweep,
      pen.step_arcTo_arcTo_commands hscale hwr hhr start sweep sweep',
      pen.step_arcTo_commands hscale hwr hhr start (sweep + sweep')⟩
  · rw [step_arcTo_pen, arcTarget_turns, ready_point]
    rfl

/-- Forth and back along an ellipse in a space that is stretched to twice its width, and two turns back. -/
theorem arcs_compose_forth_and_back :
    let pen : Pen ℝ := ⟨⟨2, 1⟩, some ⟨10, 20⟩, some ⟨10, 20⟩, false⟩
    let first := pen.step (.arcTo 30 10 45 100)
    let second := first.1.step (.arcTo 30 10 (45 + 100) (-250))
    let whole := pen.step (.arcTo 30 10 45 (100 + -250))
    (0 < pen.scale.x ∧ 0 < pen.scale.y) ∧ (0 : ℝ) < 30 ∧ (0 : ℝ) < 10 ∧ second.1 = whole.1 ∧
      (∃ (center : Point ℝ) (t₀ t₁ t₂ : ℝ),
        let arc (s t : ℝ) : Arc ℝ := ⟨pen.toBox center, 30 * 2, 10 * 1, s, t⟩
        first.2 = [.arcTo (arc t₀ t₁)] ∧ second.2 = [.arcTo (arc t₁ t₂)] ∧
          whole.2 = [.arcTo (arc t₀ t₂)]) ∧
      (pen.step (.arcTo 30 10 45 (360 * (-2 : ℤ)))).1.position = some ⟨10, 20⟩ := by
  intro pen
  have hspace : 0 < pen.scale.x ∧ 0 < pen.scale.y := ⟨two_pos, one_pos⟩
  have hwr : (0 : ℝ) < 30 := by norm_num
  have hhr : (0 : ℝ) < 10 := by norm_num
  obtain ⟨hpen, harcs, hturns⟩ := pen.arcs_compose hspace 30 10 45 100 (-250)
  exact ⟨hspace, hwr, hhr, hpen, harcs hwr hhr, hturns (-2)⟩

end Pen

end ShapeOutline
