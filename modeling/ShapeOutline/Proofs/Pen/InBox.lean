import Mathlib
import ShapeOutline.Proofs.Pen.Track

/-!
# A pen in the box

A pen whose local space is the box leaves the points that it is told, as they are named. Only the
commands of quadratic curves and arcs are not named by their instructions.

* `Instruction.command?`: the command that an instruction names;
* `Pen.run_concat`: instructions behind other ones;
* `Pen.run_append_eq`: a pen in the box leaves the commands that are named;
* `Path.drawn_eq`, `Path.drawn_arc_eq`: the path of named commands, and of an arc behind them;
* `Path.drawnIn_zero`: a local space without extent is the box.
-/

namespace ShapeOutline

/-- The command that an instruction names, when the pen is down and its local space is the box. -/
def Instruction.command? {α : Type} : Instruction α → Option (Command α)
  | .moveTo x y => some (.moveTo ⟨x, y⟩)
  | .lineTo x y => some (.lineTo ⟨x, y⟩)
  | .cubicTo x1 y1 x2 y2 x y => some (.cubicTo ⟨x1, y1⟩ ⟨x2, y2⟩ ⟨x, y⟩)
  | .close => some .close
  | _ => none

namespace Pen

/-- Instructions behind other ones are followed by the pen that those leave. -/
theorem run_concat {α : Type} [Scalar α] (pen : Pen α) (is js : List (Instruction α)) :
    pen.run (is ++ js)
      = (((pen.run is).1.run js).1, (pen.run is).2 ++ ((pen.run is).1.run js).2) := by
  induction is generalizing pen with
  | nil => rfl
  | cons i is ih =>
    show (((pen.step i).1.run (is ++ js)).1, (pen.step i).2 ++ ((pen.step i).1.run (is ++ js)).2) = _
    rw [ih, ← List.append_assoc]
    rfl

theorem toBox_of_scale_one {pen : Pen ℝ} (hscale : pen.scale = ⟨1, 1⟩) (p : Point ℝ) :
    pen.toBox p = p := by
  rw [toBox, hscale]
  exact congrArg₂ Point.mk (mul_one p.x) (mul_one p.y)

/-- A pen in the box leaves the command that it is told, and stays down in the box. -/
theorem step_eq {pen : Pen ℝ} (hdown : pen.IsDown) (hscale : pen.scale = ⟨1, 1⟩)
    {i : Instruction ℝ} {c : Command ℝ} (hc : i.command? = some c) :
    ∃ pen', pen.step i = (pen', [c]) ∧ pen'.IsDown ∧ pen'.scale = ⟨1, 1⟩ := by
  obtain ⟨p, hready⟩ := hdown.ready_eq
  have hbox := toBox_of_scale_one hscale
  cases i with
  | moveTo x y =>
    cases hc
    exact ⟨_, by rw [step, hbox], pen.isDown_movedTo _, hscale⟩
  | lineTo x y =>
    cases hc
    refine ⟨pen.drawnTo ⟨x, y⟩, ?_, hdown.drawnTo _, hscale⟩
    rw [step, line, hready]
    dsimp only
    rw [hbox, List.nil_append]
  | cubicTo x1 y1 x2 y2 x y =>
    cases hc
    refine ⟨pen.drawnTo ⟨x, y⟩, ?_, hdown.drawnTo _, hscale⟩
    rw [step, cubic, hready]
    dsimp only
    rw [hbox, hbox, hbox, List.nil_append]
  | close =>
    cases hc
    obtain ⟨q, hq⟩ := Option.isSome_iff_exists.mp hdown.position
    have hdown' : IsDown { pen with position := pen.subpathStart, drawing := false } :=
      ⟨hdown.subpathStart, hdown.subpathStart⟩
    exact ⟨_, by rw [step, closed, hq], hdown', hscale⟩
  | _ => cases hc

/-- A pen in the box leaves the commands that it is told, and goes on down in the box. -/
theorem run_append_eq {pen : Pen ℝ} (hdown : pen.IsDown) (hscale : pen.scale = ⟨1, 1⟩)
    {is : List (Instruction ℝ)} {cs : List (Command ℝ)}
    (hcs : is.mapM Instruction.command? = some cs) (js : List (Instruction ℝ)) :
    ∃ pen' : Pen ℝ, pen'.IsDown ∧ pen'.scale = ⟨1, 1⟩ ∧
      (pen.run (is ++ js)).2 = cs ++ (pen'.run js).2 := by
  induction is generalizing pen cs with
  | nil =>
    cases hcs
    exact ⟨pen, hdown, hscale, rfl⟩
  | cons i is ih =>
    rw [List.mapM_cons] at hcs
    obtain ⟨c, hc, hcs⟩ := Option.bind_eq_some_iff.mp hcs
    obtain ⟨ds, hds, hcons⟩ := Option.bind_eq_some_iff.mp hcs
    obtain rfl : c :: ds = cs := Option.some.inj hcons
    obtain ⟨pen', hstep, hdown', hscale'⟩ := step_eq hdown hscale hc
    obtain ⟨last, hdown'', hscale'', hrun⟩ := ih hdown' hscale' hds
    refine ⟨last, hdown'', hscale'', ?_⟩
    rw [List.cons_append, run, hstep]
    dsimp only
    rw [hrun]
    rfl

/-- Lines are commands in the box. -/
theorem mapM_command?_lines (coordinates : List (ℝ × ℝ)) :
    (coordinates.map fun q => Instruction.lineTo q.1 q.2).mapM Instruction.command?
      = some (coordinates.map fun q => .lineTo ⟨q.1, q.2⟩) := by
  induction coordinates with
  | nil => rfl
  | cons q coordinates ih =>
    rw [List.map_cons, List.mapM_cons, ih]
    rfl

/-- An arc from where the pen is. Its centre is where the ellipse passes through the pen. -/
theorem ellipticalArc_in_box {pen : Pen ℝ} {p : Point ℝ} (hpos : pen.position = some p)
    (hscale : pen.scale = ⟨1, 1⟩) {wr hr : ℝ} (hwr : 0 < wr) (hhr : 0 < hr) (start sweep : ℝ) :
    let center := p - ellipsePoint Point.origin wr hr (parametricAngle start wr hr)
    pen.ellipticalArc wr hr start sweep
      = (pen.drawnTo (ellipsePoint center wr hr (parametricAngle (start + sweep) wr hr)),
          [.arcTo ⟨center, wr, hr, parametricAngle start wr hr,
            parametricAngle (start + sweep) wr hr⟩]) := by
  have hwidth : 0 < pen.scale.x := by
    rw [hscale]
    exact one_pos
  have hheight : 0 < pen.scale.y := by
    rw [hscale]
    exact one_pos
  rw [ellipticalArc_of_position hpos hwidth hheight hwr hhr, toBox_of_scale_one hscale, hscale, mul_one,
    mul_one]

theorem plain_scale : (plain : Pen ℝ).scale = ⟨1, 1⟩ := by
  rw [plain, Exact.literal_eq, Nat.cast_one]

end Pen

namespace Path

/-- A path that begins at a point, goes on as it is told and then does something else. -/
theorem drawn_append_eq (x y : ℝ) {is : List (Instruction ℝ)} {cs : List (Command ℝ)}
    (hcs : is.mapM Instruction.command? = some cs) (js : List (Instruction ℝ)) :
    ∃ pen : Pen ℝ, pen.IsDown ∧ pen.scale = ⟨1, 1⟩ ∧
      Path.drawn (.moveTo x y :: (is ++ js)) = ⟨.moveTo ⟨x, y⟩ :: (cs ++ (pen.run js).2)⟩ := by
  obtain ⟨pen, hdown, hscale, hrun⟩ :=
    Pen.run_append_eq (Pen.plain.isDown_movedTo ⟨x, y⟩) Pen.plain_scale hcs js
  refine ⟨pen, hdown, hscale, ?_⟩
  show Path.mk (.moveTo (Pen.plain.toBox ⟨x, y⟩)
    :: ((Pen.plain.movedTo ⟨x, y⟩).run (is ++ js)).2) = _
  rw [hrun, Pen.toBox_of_scale_one Pen.plain_scale]

/-- A path that begins at a point and goes on as it is told. -/
theorem drawn_eq (x y : ℝ) {is : List (Instruction ℝ)} {cs : List (Command ℝ)}
    (hcs : is.mapM Instruction.command? = some cs) :
    Path.drawn (.moveTo x y :: is) = ⟨.moveTo ⟨x, y⟩ :: cs⟩ := by
  obtain ⟨pen, -, -, hpath⟩ := drawn_append_eq x y hcs []
  rw [List.append_nil] at hpath
  rw [hpath, Pen.run, List.append_nil]

/-- The same with an arc at its end. -/
theorem drawn_arc_eq (x y : ℝ) {is : List (Instruction ℝ)} {cs : List (Command ℝ)}
    (hcs : is.mapM Instruction.command? = some cs) {wr hr : ℝ} (hwr : 0 < wr) (hhr : 0 < hr)
    (start sweep : ℝ) :
    ∃ a : Arc ℝ, Path.drawn (.moveTo x y :: (is ++ [.arcTo wr hr start sweep]))
        = ⟨.moveTo ⟨x, y⟩ :: (cs ++ [.arcTo a])⟩ ∧ a.rx = wr ∧ a.ry = hr ∧
      a.start = parametricAngle start wr hr ∧ a.stop = parametricAngle (start + sweep) wr hr := by
  obtain ⟨pen, hdown, hscale, hpath⟩ := drawn_append_eq x y hcs [.arcTo wr hr start sweep]
  obtain ⟨p, hpos⟩ := Option.isSome_iff_exists.mp hdown.position
  let center := p - ellipsePoint Point.origin wr hr (parametricAngle start wr hr)
  have harc := Pen.ellipticalArc_in_box hpos hscale hwr hhr start sweep
  refine ⟨⟨center, wr, hr, parametricAngle start wr hr, parametricAngle (start + sweep) wr hr⟩, ?_,
    rfl, rfl, rfl, rfl⟩
  rw [hpath]
  show Path.mk (_ :: (cs ++ ((pen.ellipticalArc wr hr start sweep).2 ++ []))) = _
  rw [harc]
  rfl

/-- A local space without extent is the box. -/
theorem drawnIn_zero (w h : ℝ) (is : List (Instruction ℝ)) :
    Path.drawnIn w h (@OfNat.ofNat ℝ 0 (Scalar.literal 0)) (@OfNat.ofNat ℝ 0 (Scalar.literal 0)) is
      = Path.drawn is := by
  rw [drawnIn, Pen.inSpace, Pen.factor, Pen.factor, if_neg (lt_irrefl _), if_neg (lt_irrefl _)]
  rfl

end Path

end ShapeOutline
