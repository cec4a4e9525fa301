import Mathlib
import ShapeOutline.Proofs.Path.Trace
import ShapeOutline.Proofs.Pen.Consecutive
import ShapeOutline.Proofs.Pen.Weld

/-!
# Quadratic curves

A quadratic curve is drawn as a cubic one whose control points lie two thirds of the way to the control
point of the quadratic one. The two are the same curve, travelled in the same time, and a stretch of the
plane takes one as it takes the other.

* `Point.quadraticBezier`: the points of a quadratic curve;
* `Point.bezier_elevate`: the cubic curve goes through them at the same times;
* `Pen.quadratic_commands`: what is left behind for a quadratic curve, from any pen;
* `Pen.quadratic_traces`: it is the image of the quadratic curve from where the pen is.
-/

namespace ShapeOutline

namespace Point

/-- The point of the quadratic Bézier curve from `p` to `r` with the control point `q`. -/
noncomputable def quadraticBezier (p q r : Point ℝ) (t : ℝ) : Point ℝ :=
  p.times ((1 - t) ^ 2) + q.times (2 * (1 - t) * t) + r.times (t ^ 2)

/-- The weights of the cubic curve, gathered by the points of the quadratic one. -/
private theorem elevated_weights (p q r t : ℝ) :
    p * (1 - t) ^ 3 + (p + (q - p) * ((2 : ℕ) / (3 : ℕ))) * (3 * (1 - t) ^ 2 * t)
        + (r + (q - r) * ((2 : ℕ) / (3 : ℕ))) * (3 * (1 - t) * t ^ 2) + r * t ^ 3
      = p * (1 - t) ^ 2 + q * (2 * (1 - t) * t) + r * t ^ 2 := by
  push_cast
  ring

variable (p q r : Point ℝ) (t : ℝ)

/-- Raising the degree does not change the curve. -/
theorem bezier_elevate :
    bezier p (Pen.elevate p q) (Pen.elevate r q) r t = quadraticBezier p q r t := by
  ext
  · exact elevated_weights p.x q.x r.x t
  · exact elevated_weights p.y q.y r.y t

theorem quadraticBezier_stretch (s : Point ℝ) :
    quadraticBezier (p.stretch s) (q.stretch s) (r.stretch s) t
      = (quadraticBezier p q r t).stretch s := by
  ext
  · show p.x * s.x * (1 - t) ^ 2 + q.x * s.x * (2 * (1 - t) * t) + r.x * s.x * t ^ 2
      = (p.x * (1 - t) ^ 2 + q.x * (2 * (1 - t) * t) + r.x * t ^ 2) * s.x
    ring
  · show p.y * s.y * (1 - t) ^ 2 + q.y * s.y * (2 * (1 - t) * t) + r.y * s.y * t ^ 2
      = (p.y * (1 - t) ^ 2 + q.y * (2 * (1 - t) * t) + r.y * t ^ 2) * s.y
    ring

theorem bezier_zero (c1 c2 : Point ℝ) : bezier p c1 c2 r 0 = p := by
  ext
  · show p.x * (1 - 0) ^ 3 + c1.x * (3 * (1 - 0) ^ 2 * 0) + c2.x * (3 * (1 - 0) * 0 ^ 2)
      + r.x * 0 ^ 3 = p.x
    ring
  · show p.y * (1 - 0) ^ 3 + c1.y * (3 * (1 - 0) ^ 2 * 0) + c2.y * (3 * (1 - 0) * 0 ^ 2)
      + r.y * 0 ^ 3 = p.y
    ring

end Point

namespace Pen

variable (pen : Pen ℝ)

/-- What a pen leaves to be ready: nothing, or the move that puts it down at the origin. -/
theorem ready_commands :
    pen.ready.2.2
      = if pen.position.isSome then [] else [.moveTo (pen.toBox Point.origin)] := by
  unfold ready
  cases pen.position <;> rfl

/-- The path goes on from where the pen is when it ended there, or when the pen was up. -/
theorem trail_ready_iff (before : List (Command ℝ)) :
    (Path.mk (before ++ pen.ready.2.2)).trail.pen = some (pen.toBox pen.ready.2.1) ↔
      (pen.position.isSome → pen.IsAtEnd before) := by
  rw [trail_append, ready_commands, ready_point, IsAtEnd]
  cases hpos : pen.position with
  | none => exact iff_of_true rfl fun h => absurd h Bool.false_ne_true
  | some p => exact ⟨fun h _ => h.symm, fun h => (h rfl).symm⟩

/-- A pen that is ready leaves a cubic curve and nothing else. -/
theorem cubic_ready_commands (c1 c2 p : Point ℝ) :
    (pen.ready.1.cubic c1 c2 p).2
      = [.cubicTo (pen.toBox c1) (pen.toBox c2) (pen.toBox p)] := by
  have hbox : pen.ready.1.toBox = pen.toBox := by
    funext q
    exact congrArg q.stretch pen.ready_scale
  rw [cubic, ready_ready]
  show [Command.cubicTo (pen.ready.1.toBox c1) (pen.ready.1.toBox c2) (pen.ready.1.toBox p)] = _
  rw [hbox]

/-- For a quadratic curve a cubic one is left behind, with its control points in the box. -/
theorem quadratic_commands (qx qy x y : ℝ) :
    (pen.step (.quadTo qx qy x y)).2
      = pen.ready.2.2 ++ [.cubicTo (pen.toBox (elevate pen.ready.2.1 ⟨qx, qy⟩))
          (pen.toBox (elevate ⟨x, y⟩ ⟨qx, qy⟩)) (pen.toBox ⟨x, y⟩)] :=
  congrArg (pen.ready.2.2 ++ ·) (pen.cubic_ready_commands _ _ _)

/-- The last command of a path draws from where the commands before it leave the pen. -/
theorem trace_cubic_last (before : List (Command ℝ)) (c1 c2 p : Point ℝ) (t : ℝ) :
    (Path.mk (before ++ [.cubicTo c1 c2 p])).trace before.length t
      = (Path.mk before).trail.pen.map fun q => q.bezier c1 c2 p t := by
  rw [Path.trace, List.getElem?_concat_length, Option.bind_some, List.take_left]
  rfl

/-- A quadratic curve is left behind as a cubic one, whatever the pen is and however its space is stretched,
and after a move to the origin when the pen was up. At every time the cubic curve from the pen is at the
image in the box of the point at which the quadratic curve is. A path is continued by this very curve exactly
when it ended where the pen was, or the pen was up. -/
theorem quadratic_traces (qx qy x y : ℝ) :
    let start := pen.position.getD Point.origin
    let curve := start.quadraticBezier ⟨qx, qy⟩ ⟨x, y⟩
    ∃ (moves : List (Command ℝ)) (c1 c2 : Point ℝ),
      (pen.step (.quadTo qx qy x y)).2 = moves ++ [.cubicTo c1 c2 (pen.toBox ⟨x, y⟩)] ∧
      (moves = if pen.position.isSome then [] else [.moveTo (pen.toBox Point.origin)]) ∧
      (∀ t, (pen.toBox start).bezier c1 c2 (pen.toBox ⟨x, y⟩) t = pen.toBox (curve t)) ∧
      ∀ before : List (Command ℝ),
        (∀ t ∈ Set.Icc (0 : ℝ) 1,
            (Path.mk (before ++ (pen.step (.quadTo qx qy x y)).2)).trace (before ++ moves).length t
              = some (pen.toBox (curve t))) ↔
          (pen.position.isSome → pen.IsAtEnd before) := by
  intro start curve
  have hcurve (t : ℝ) : (pen.toBox start).bezier (pen.toBox (elevate start ⟨qx, qy⟩))
      (pen.toBox (elevate ⟨x, y⟩ ⟨qx, qy⟩)) (pen.toBox ⟨x, y⟩) t = pen.toBox (curve t) := by
    rw [toBox_elevate, toBox_elevate, Point.bezier_elevate]
    exact Point.quadraticBezier_stretch start ⟨qx, qy⟩ ⟨x, y⟩ t pen.scale
  have hcommands := pen.quadratic_commands qx qy x y
  have hstart : pen.ready.2.1 = start := pen.ready_point
  rw [hstart] at hcommands
  refine ⟨pen.ready.2.2, _, _, hcommands, pen.ready_commands, hcurve, fun before => ?_⟩
  rw [← trail_ready_iff, hcommands, ← List.append_assoc, hstart]
  simp only [trace_cubic_last]
  constructor
  · intro htrace
    -- the curve begins where the path was
    obtain ⟨q, hq, hzero⟩ := Option.map_eq_some_iff.mp (htrace 0 ⟨le_rfl, zero_le_one⟩)
    rw [← hcurve, Point.bezier_zero, Point.bezier_zero] at hzero
    rw [hq, hzero]
  · intro hpen t _
    rw [hpen, Option.map_some, hcurve]

end Pen

end ShapeOutline
