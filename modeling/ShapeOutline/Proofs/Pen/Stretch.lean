import Mathlib
import ShapeOutline.Custom
import ShapeOutline.Proofs.Pen.InBox

/-!
# Drawing in a stretched space

A pen leaves the stretched drawing when the lengths that it is told are stretched, and when the space in
which it draws is stretched onto the box. Two things do not follow by themselves. Arcs that are named by
directions must be converted alike for the radii before and after. Fragments that are given in the
coordinates of the box are not stretched with the space; arcs that are named by centre and angles are
drawn as such a fragment, but one that was stretched first.

* `Stretch`: how much longer lengths are along either axis;
* `Arc.stretched`, `Command.stretched`, `Path.stretched`: the stretched drawing;
* `Path.scaled_eq_stretched`, `Path.scaled_stretched`: it is the drawing scaled per axis;
* `Instruction.resized`, `Pen.resized`: what is told to the pen, and the pen, when lengths are stretched
  by the first and the space by the second of two stretches;
* `Pen.step_resized`, `Pen.run_resized`: it leaves the drawing that is stretched by both;
* `Instruction.isAppend`, `Instruction.isAppend_polygon`, ...: what appends a fragment, and figures that
  do not;
* `Pen.run_stretched`: the same where only the space is stretched;
* `Path.drawnIn_eq_scaled`, `CustomPath.outline_eq_scaled`: drawings in a space of their own;
* `Pen.run_inSpace`: all of it.
-/

namespace ShapeOutline

/-- How much longer lengths become along either axis. -/
@[ext] structure Stretch where
  x : ℝ
  y : ℝ
  x_pos : 0 < x
  y_pos : 0 < y

namespace Stretch

/-- The same as a scale. -/
def scale (s : Stretch) : Point ℝ := ⟨s.x, s.y⟩

/-- Stretches are put together axis by axis, from that which leaves lengths as they are. -/
noncomputable instance : MulOneClass Stretch where
  one := ⟨1, 1, one_pos, one_pos⟩
  mul s t := ⟨s.x * t.x, s.y * t.y, mul_pos s.x_pos t.x_pos, mul_pos s.y_pos t.y_pos⟩
  one_mul s := Stretch.ext (one_mul s.x) (one_mul s.y)
  mul_one s := Stretch.ext (mul_one s.x) (mul_one s.y)

end Stretch

variable (u s : Stretch)

/-! ## Points, arcs, commands and paths -/

namespace Point

variable (p q c : Point ℝ)

theorem map_origin : p.map c origin = p.stretch c := by
  rw [origin, Exact.literal_zero]
  exact congrArg₂ mk (add_zero _) (add_zero _)

theorem origin_stretch : origin.stretch c = origin := by
  rw [origin, Exact.literal_zero]
  exact congrArg₂ mk (zero_mul _) (zero_mul _)

theorem stretch_add : p.stretch c + q.stretch c = (p + q).stretch c :=
  congrArg₂ mk (add_mul _ _ _).symm (add_mul _ _ _).symm

theorem stretch_sub : p.stretch c - q.stretch c = (p - q).stretch c :=
  congrArg₂ mk (sub_mul _ _ _).symm (sub_mul _ _ _).symm

theorem stretch_times (k : ℝ) : (p.stretch c).times k = (p.times k).stretch c :=
  congrArg₂ mk (mul_right_comm _ _ _) (mul_right_comm _ _ _)

theorem stretch_one : p.stretch (1 : Stretch).scale = p :=
  congrArg₂ mk (mul_one p.x) (mul_one p.y)

/-- A stretched point under a scale that is stretched further. -/
theorem stretch_stretch :
    (p.stretch u.scale).stretch (c.stretch s.scale) = (p.stretch c).stretch (u * s).scale :=
  congrArg₂ mk (mul_mul_mul_comm p.x u.x c.x s.x) (mul_mul_mul_comm p.y u.y c.y s.y)

end Point

theorem ellipsePoint_stretch (center : Point ℝ) (rx ry deg : ℝ) :
    ellipsePoint (center.stretch s.scale) (rx * s.x) (ry * s.y) deg
      = (ellipsePoint center rx ry deg).stretch s.scale := by
  unfold ellipsePoint
  rw [← Point.stretch_add]
  exact congrArg (center.stretch s.scale + ·)
    (congrArg₂ Point.mk (mul_right_comm rx s.x _) (mul_right_comm ry s.y _))

namespace Arc

/-- An arc of the stretched drawing. -/
noncomputable def stretched (a : Arc ℝ) : Arc ℝ :=
  ⟨a.center.stretch s.scale, a.rx * s.x, a.ry * s.y, a.start, a.stop⟩

theorem stretched_one (a : Arc ℝ) : a.stretched 1 = a := by
  have hx : a.rx * (1 : Stretch).x = a.rx := mul_one a.rx
  have hy : a.ry * (1 : Stretch).y = a.ry := mul_one a.ry
  rw [stretched, Point.stretch_one, hx, hy]

theorem pointAt_stretched (a : Arc ℝ) (deg : ℝ) :
    (a.stretched s).pointAt deg = (a.pointAt deg).stretch s.scale :=
  ellipsePoint_stretch s a.center a.rx a.ry deg

/-- Radii that span an ellipse still do when they are stretched. -/
theorem isDegenerate_stretched (a : Arc ℝ) : (a.stretched s).isDegenerate = a.isDegenerate := by
  have hrx : 0 < a.rx * s.x ↔ 0 < a.rx := mul_pos_iff_of_pos_right s.x_pos
  have hry : 0 < a.ry * s.y ↔ 0 < a.ry := mul_pos_iff_of_pos_right s.y_pos
  rw [Bool.eq_iff_iff, Pen.isDegenerate_iff, Pen.isDegenerate_iff]
  exact not_congr (and_congr hrx hry)

/-- A scale that is stretched further mirrors the same axes. -/
theorem reflectAngle_stretch (scale : Point ℝ) (deg : ℝ) :
    reflectAngle (scale.stretch s.scale) deg = reflectAngle scale deg := by
  have hx : scale.x * s.x < 0 ↔ scale.x < 0 := by
    rw [← not_le, ← not_le, mul_nonneg_iff_of_pos_right s.x_pos]
  have hy : scale.y * s.y < 0 ↔ scale.y < 0 := by
    rw [← not_le, ← not_le, mul_nonneg_iff_of_pos_right s.y_pos]
  unfold reflectAngle
  rw [Exact.literal_zero]
  simp only [Point.stretch, Stretch.scale, hx, hy]

/-- A stretched arc under a scale that is stretched further. -/
theorem mapped_stretched (scale : Point ℝ) (a : Arc ℝ) :
    (a.stretched u).mapped (scale.stretch s.scale) Point.origin
      = (a.mapped scale Point.origin).stretched (u * s) := by
  have hx : a.rx * u.x * |scale.x * s.x| = a.rx * |scale.x| * (u.x * s.x) := by
    rw [abs_mul, abs_of_pos s.x_pos, mul_mul_mul_comm]
  have hy : a.ry * u.y * |scale.y * s.y| = a.ry * |scale.y| * (u.y * s.y) := by
    rw [abs_mul, abs_of_pos s.y_pos, mul_mul_mul_comm]
  unfold mapped
  rw [stretched, stretched, Point.map_origin, Point.map_origin, Point.stretch_stretch]
  dsimp only
  rw [reflectAngle_stretch, reflectAngle_stretch]
  exact congrArg₂ (fun rx ry => Arc.mk _ rx ry _ _) hx hy

/-- Stretching mirrors nothing. -/
theorem mapped_scale (a : Arc ℝ) : a.mapped s.scale Point.origin = a.stretched s := by
  have hangle (deg : ℝ) : reflectAngle s.scale deg = deg := by
    unfold reflectAngle
    rw [Exact.literal_zero]
    exact (if_neg s.y_pos.not_gt).trans (if_neg s.x_pos.not_gt)
  have hx : a.rx * |s.x| = a.rx * s.x := by rw [abs_of_pos s.x_pos]
  have hy : a.ry * |s.y| = a.ry * s.y := by rw [abs_of_pos s.y_pos]
  unfold mapped stretched
  rw [Point.map_origin, hangle, hangle]
  exact congrArg₂ (fun rx ry => Arc.mk _ rx ry _ _) hx hy

end Arc

namespace Command

/-- A command of the stretched drawing. -/
noncomputable def stretched : Command ℝ → Command ℝ
  | moveTo p => moveTo (p.stretch s.scale)
  | lineTo p => lineTo (p.stretch s.scale)
  | cubicTo c1 c2 p => cubicTo (c1.stretch s.scale) (c2.stretch s.scale) (p.stretch s.scale)
  | arcTo a => arcTo (a.stretched s)
  | close => close

theorem ofArc_stretched (a : Arc ℝ) : ofArc (a.stretched s) = (ofArc a).stretched s := by
  unfold ofArc
  rw [a.isDegenerate_stretched]
  split
  · exact congrArg lineTo (a.pointAt_stretched s a.start)
  · rfl

theorem endPoint?_stretched (c : Command ℝ) :
    (c.stretched s).endPoint? = c.endPoint?.map fun p => p.stretch s.scale := by
  cases c with
  | arcTo a => exact congrArg some (a.pointAt_stretched s a.stop)
  | _ => rfl

/-- A stretched command under a scale that is stretched further. -/
theorem mapped_stretched (scale : Point ℝ) (c : Command ℝ) :
    (c.stretched u).mapped (scale.stretch s.scale) Point.origin
      = (c.mapped scale Point.origin).stretched (u * s) := by
  cases c with
  | arcTo a => exact congrArg arcTo (a.mapped_stretched u s scale)
  | close => rfl
  | _ => simp only [mapped, stretched, Point.map_origin, Point.stretch_stretch]

theorem mapped_scale (c : Command ℝ) : c.mapped s.scale Point.origin = c.stretched s := by
  cases c with
  | arcTo a => exact congrArg arcTo (a.mapped_scale s)
  | close => rfl
  | _ => simp only [mapped, stretched, Point.map_origin]

end Command

namespace Path

/-- A path of the stretched drawing. -/
noncomputable def stretched (p : Path ℝ) : Path ℝ := ⟨p.commands.map (Command.stretched s)⟩

/-- A stretched path that is scaled further along the axes. -/
theorem scaled_stretched (sx sy : ℝ) (p : Path ℝ) :
    (p.stretched u).scaled (sx * s.x) (sy * s.y) = (p.scaled sx sy).stretched (u * s) := by
  have hcommands : Command.mapped (Point.stretch ⟨sx, sy⟩ s.scale) Point.origin ∘ Command.stretched u
      = Command.stretched (u * s) ∘ Command.mapped ⟨sx, sy⟩ Point.origin :=
    funext (Command.mapped_stretched u s ⟨sx, sy⟩)
  refine congrArg mk ?_
  show (p.commands.map _).map (Command.mapped (Point.stretch ⟨sx, sy⟩ s.scale) Point.origin)
    = (p.commands.map _).map _
  rw [List.map_map, List.map_map, hcommands]

/-- The stretched drawing is the drawing scaled per axis. -/
theorem scaled_eq_stretched (p : Path ℝ) : p.scaled s.x s.y = p.stretched s := by
  show mk (p.commands.map (Command.mapped s.scale Point.origin)) = _
  rw [funext (Command.mapped_scale s)]
  rfl

/-- The drawing of one arc by itself. -/
theorem ofArc_stretched (a : Arc ℝ) (wedge : Bool) :
    ofArc (a.stretched s) wedge = (ofArc a wedge).stretched s := by
  have hclockwise : (a.stretched s).clockwise = a.clockwise.stretched s := rfl
  have hstart : (a.stretched s).startPoint = a.startPoint.stretch s.scale :=
    a.pointAt_stretched s a.start
  unfold ofArc
  rw [a.isDegenerate_stretched, hclockwise, hstart]
  cases a.isDegenerate <;> cases wedge <;> rfl

end Path

/-! ## Drawing at another size -/

namespace Instruction

/-- What is told to the pen when lengths are stretched by `u` and the space by `s`. A fragment is given in
the coordinates of the box, and stretched by both. -/
noncomputable def resized : Instruction ℝ → Instruction ℝ
  | moveTo x y => moveTo (x * u.x) (y * u.y)
  | lineTo x y => lineTo (x * u.x) (y * u.y)
  | cubicTo x1 y1 x2 y2 x y =>
    cubicTo (x1 * u.x) (y1 * u.y) (x2 * u.x) (y2 * u.y) (x * u.x) (y * u.y)
  | quadTo qx qy x y => quadTo (qx * u.x) (qy * u.y) (x * u.x) (y * u.y)
  | arcTo wr hr start sweep => arcTo (wr * u.x) (hr * u.y) start sweep
  | arc spec wedge => arc (spec.stretched u) wedge
  | append fragment => append (fragment.stretched (u * s))
  | close => close

/-- The directions at which an arc begins and ends are converted alike when its radii are stretched. -/
def TurnsAlike : Instruction ℝ → Prop
  | arcTo wr hr start sweep =>
    ∀ deg ∈ [start, start + sweep],
      parametricAngle deg (wr * u.x) (hr * u.y) = parametricAngle deg wr hr
  | _ => True

end Instruction

namespace Pen

/-- The pen when lengths are stretched by `u` and the space by `s`. -/
noncomputable def resized (pen : Pen ℝ) : Pen ℝ where
  scale := pen.scale.stretch s.scale
  position := pen.position.map fun p => p.stretch u.scale
  subpathStart := pen.subpathStart.map fun p => p.stretch u.scale
  drawing := pen.drawing

/-- The pen and the commands it left, when lengths are stretched by `u` and the space by `s`. -/
noncomputable abbrev resizedOut (out : Pen ℝ × List (Command ℝ)) : Pen ℝ × List (Command ℝ) :=
  (out.1.resized u s, out.2.map (Command.stretched (u * s)))

variable (pen : Pen ℝ)

theorem toBox_resized (p : Point ℝ) :
    (pen.resized u s).toBox (p.stretch u.scale) = (pen.toBox p).stretch (u * s).scale :=
  Point.stretch_stretch u s p pen.scale

theorem ready_resized :
    (pen.resized u s).ready
      = (pen.ready.1.resized u s, pen.ready.2.1.stretch u.scale,
          pen.ready.2.2.map (Command.stretched (u * s))) := by
  have hposition : (pen.resized u s).position = pen.position.map fun p => p.stretch u.scale := rfl
  unfold ready
  rw [hposition]
  cases pen.position with
  | some p => rfl
  | none =>
    have horigin := pen.toBox_resized u s Point.origin
    rw [Point.origin_stretch] at horigin
    have hmoved : (pen.resized u s).movedTo Point.origin = (pen.movedTo Point.origin).resized u s := by
      simp only [resized, movedTo, Option.map_some, Point.origin_stretch]
    dsimp only [Option.map_none]
    rw [horigin, hmoved, Point.origin_stretch]
    rfl

theorem line_resized (p : Point ℝ) :
    (pen.resized u s).line (p.stretch u.scale) = resizedOut u s (pen.line p) := by
  unfold line
  rw [ready_resized]
  simp only [toBox_resized, resizedOut, List.map_append]
  rfl

theorem cubic_resized (c1 c2 p : Point ℝ) :
    (pen.resized u s).cubic (c1.stretch u.scale) (c2.stretch u.scale) (p.stretch u.scale)
      = resizedOut u s (pen.cubic c1 c2 p) := by
  unfold cubic
  rw [ready_resized]
  simp only [toBox_resized, resizedOut, List.map_append]
  rfl

theorem quadratic_resized (q p : Point ℝ) :
    (pen.resized u s).quadratic (q.stretch u.scale) (p.stretch u.scale)
      = resizedOut u s (pen.quadratic q p) := by
  have helevate (p : Point ℝ) :
      elevate (p.stretch u.scale) (q.stretch u.scale) = (elevate p q).stretch u.scale := by
    simp only [elevate, Point.stretch_sub, Point.stretch_times, Point.stretch_add]
  unfold quadratic
  rw [ready_resized]
  simp only [helevate, cubic_resized, resizedOut, List.map_append]

theorem ellipticalArc_resized {wr hr start sweep : ℝ}
    (h : (Instruction.arcTo wr hr start sweep).TurnsAlike u) :
    (pen.resized u s).ellipticalArc (wr * u.x) (hr * u.y) start sweep
      = resizedOut u s (pen.ellipticalArc wr hr start sweep) := by
  obtain ⟨hstart, hsweep⟩ := List.forall_mem_cons.mp h
  have hstop := List.forall_mem_singleton.mp hsweep
  have hspans : 0 < wr * u.x ∧ 0 < hr * u.y ↔ 0 < wr ∧ 0 < hr :=
    and_congr (mul_pos_iff_of_pos_right u.x_pos) (mul_pos_iff_of_pos_right u.y_pos)
  -- the centre is found from the pen, which is stretched, and the angle, which is not
  have hcenter (p : Point ℝ) (deg : ℝ) :
      p.stretch u.scale - ellipsePoint Point.origin (wr * u.x) (hr * u.y) deg
        = (p - ellipsePoint Point.origin wr hr deg).stretch u.scale := by
    rw [← Point.stretch_sub, ← ellipsePoint_stretch, Point.origin_stretch]
  have harc (made : Pen ℝ) (center : Point ℝ) (t0 t1 : ℝ) :
      Arc.mk ((made.resized u s).toBox (center.stretch u.scale))
          (wr * u.x * (made.resized u s).scale.x) (hr * u.y * (made.resized u s).scale.y) t0 t1
        = (Arc.mk (made.toBox center) (wr * made.scale.x) (hr * made.scale.y) t0 t1).stretched
            (u * s) := by
    rw [toBox_resized]
    exact congrArg₂ (fun rx ry => Arc.mk _ rx ry _ _) (mul_mul_mul_comm wr u.x made.scale.x s.x)
      (mul_mul_mul_comm hr u.y made.scale.y s.y)
  unfold ellipticalArc
  rw [ready_resized, Exact.literal_zero]
  simp only [hspans, hstart, hstop]
  split
  · rw [hcenter, harc, Command.ofArc_stretched, ellipsePoint_stretch]
    simp only [resizedOut, List.map_append, List.map_cons, List.map_nil]
    rfl
  · simp only [line_resized, resizedOut, List.map_append]

/-- A point of the box that is stretched by both is at the stretched place in the space. -/
theorem toSpace_resized (p : Point ℝ) (one : ℝ) :
    (p.stretch (u * s).scale).stretch
        ⟨one / (pen.resized u s).scale.x, one / (pen.resized u s).scale.y⟩
      = (p.stretch ⟨one / pen.scale.x, one / pen.scale.y⟩).stretch u.scale := by
  have hshare {t : ℝ} (ht : 0 < t) (a v c : ℝ) : a * (v * t) * (one / (c * t)) = a * (one / c) * v := by
    rw [← mul_div_mul_right one c ht.ne']
    ring
  exact congrArg₂ Point.mk (hshare s.x_pos _ _ _) (hshare s.y_pos _ _ _)

theorem follow_resized (c : Command ℝ) :
    (pen.resized u s).follow (c.stretched (u * s)) = (pen.follow c).resized u s := by
  have hend := c.endPoint?_stretched (u * s)
  cases c with
  | moveTo p =>
    simp only [Command.stretched, follow, toSpace_resized]
    rfl
  | close => rfl
  | _ =>
    simp only [Command.stretched] at hend
    simp only [Command.stretched, follow, hend, Option.map_map, Function.comp_def, toSpace_resized]
    simp only [resized, Option.map_map, Function.comp_def]

theorem foldl_follow_resized (cs : List (Command ℝ)) :
    (cs.map (Command.stretched (u * s))).foldl follow (pen.resized u s)
      = (cs.foldl follow pen).resized u s := by
  induction cs generalizing pen with
  | nil => rfl
  | cons c cs ih => rw [List.map_cons, List.foldl_cons, follow_resized, ih, List.foldl_cons]

/-- A fragment that was stretched is welded like the fragment. -/
theorem append_resized (p : Path ℝ) :
    (pen.resized u s).append (p.stretched (u * s)) = resizedOut u s (pen.append p) := by
  obtain ⟨cs⟩ := p
  have hdrawing : (pen.resized u s).drawing = pen.drawing := rfl
  have hcommands :
      (Path.stretched (u * s) ⟨cs⟩).commands = cs.map (Command.stretched (u * s)) := rfl
  unfold append
  rw [hdrawing, hcommands]
  -- only a move that a subpath goes on with is taken over otherwise
  rcases pen.drawing with _ | _
  · exact congrArg (·, _) (foldl_follow_resized u s pen cs)
  · rcases cs with _ | ⟨c, cs⟩
    · rfl
    · cases c with
      | moveTo p => exact congrArg (·, _) (foldl_follow_resized u s pen cs)
      | _ => exact congrArg (·, _) (foldl_follow_resized u s pen (_ :: cs))

theorem closed_resized : (pen.resized u s).closed = resizedOut u s pen.closed := by
  have hposition : (pen.resized u s).position = pen.position.map fun p => p.stretch u.scale := rfl
  unfold closed
  rw [hposition]
  cases pen.position <;> rfl

/-- One instruction leaves the stretched commands. -/
theorem step_resized {i : Instruction ℝ} (hi : i.TurnsAlike u) :
    (pen.resized u s).step (i.resized u s) = resizedOut u s (pen.step i) := by
  cases i with
  | moveTo x y =>
    show (_, [Command.moveTo ((pen.resized u s).toBox (Point.stretch ⟨x, y⟩ u.scale))]) = _
    rw [toBox_resized]
    rfl
  | lineTo x y => exact line_resized u s pen ⟨x, y⟩
  | cubicTo x1 y1 x2 y2 x y => exact cubic_resized u s pen ⟨x1, y1⟩ ⟨x2, y2⟩ ⟨x, y⟩
  | quadTo qx qy x y => exact quadratic_resized u s pen ⟨qx, qy⟩ ⟨x, y⟩
  | arcTo wr hr start sweep => exact ellipticalArc_resized u s pen hi
  | arc spec wedge =>
    -- the fragment is made in the space and stretched onto the box
    have hfragment := Path.scaled_stretched u s pen.scale.x pen.scale.y (Path.ofArc spec wedge)
    rw [← Path.ofArc_stretched] at hfragment
    refine Eq.trans ?_ (append_resized u s pen _)
    exact congrArg (pen.resized u s).append hfragment
  | append fragment => exact append_resized u s pen fragment
  | close => exact closed_resized u s pen

/-- Instructions leave the stretched commands. -/
theorem run_resized {is : List (Instruction ℝ)} (his : ∀ i ∈ is, i.TurnsAlike u) :
    (pen.resized u s).run (is.map (Instruction.resized u s)) = resizedOut u s (pen.run is) := by
  induction is generalizing pen with
  | nil => rfl
  | cons i is ih =>
    obtain ⟨hi, his⟩ := List.forall_mem_cons.mp his
    rw [List.map_cons, run, step_resized u s pen hi]
    dsimp only
    rw [ih _ his]
    exact Prod.ext rfl List.map_append.symm

end Pen

/-! ## Drawing in a space that is stretched further -/

namespace Instruction

/-- Whether the instruction appends a fragment. -/
def isAppend {α : Type} : Instruction α → Bool
  | append _ => true
  | _ => false

/-- What the pen draws itself is no fragment. -/
theorem isAppend_of_isDirect {α : Type} {i : Instruction α} (h : i.isDirect = true) :
    i.isAppend = false := by
  cases i with
  | append fragment => cases h
  | _ => rfl

section

variable {α : Type} (points : List (α × α))

/-- The instructions of a figure append nothing. -/
theorem isAppend_polyline : ∀ i ∈ polyline points, i.isAppend = false := by
  cases points with
  | nil => exact List.forall_mem_nil _
  | cons first rest =>
    refine List.forall_mem_cons.mpr ⟨rfl, fun i hi => ?_⟩
    obtain ⟨p, -, rfl⟩ := List.mem_map.mp hi
    rfl

theorem isAppend_polygon : ∀ i ∈ polygon points, i.isAppend = false := by
  cases points with
  | nil => exact List.forall_mem_nil _
  | cons first rest =>
    exact List.forall_mem_append.mpr ⟨isAppend_polyline _, List.forall_mem_singleton.mpr rfl⟩

theorem isAppend_segment (x1 y1 x2 y2 : α) :
    ∀ i ∈ segment x1 y1 x2 y2, i.isAppend = false :=
  List.forall_mem_cons.mpr ⟨rfl, List.forall_mem_singleton.mpr rfl⟩

theorem isAppend_ellipse [Scalar α] (cx cy rx ry : α) :
    ∀ i ∈ ellipse cx cy rx ry, i.isAppend = false :=
  List.forall_mem_cons.mpr ⟨rfl, List.forall_mem_cons.mpr ⟨rfl, List.forall_mem_singleton.mpr rfl⟩⟩

end

theorem turnsAlike_one (i : Instruction ℝ) : i.TurnsAlike 1 := by
  cases i with
  | arcTo wr hr start sweep =>
    intro deg _
    exact congrArg₂ (parametricAngle deg) (mul_one wr) (mul_one hr)
  | _ => trivial

/-- Nothing else is told to the pen of a stretched space, unless it appends a fragment. -/
theorem resized_one {i : Instruction ℝ} (hi : i.isAppend = false) : i.resized 1 s = i := by
  have hx (a : ℝ) : a * (1 : Stretch).x = a := mul_one a
  have hy (a : ℝ) : a * (1 : Stretch).y = a := mul_one a
  cases i with
  | append fragment => cases hi
  | _ => simp only [resized, hx, hy, Arc.stretched_one]

end Instruction

namespace Pen

variable (pen : Pen ℝ)

/-- The pen of the space that is stretched further. -/
noncomputable def stretched : Pen ℝ := { pen with scale := pen.scale.stretch s.scale }

/-- The pen and the commands it left, where the space is stretched further. -/
noncomputable abbrev stretchedOut (out : Pen ℝ × List (Command ℝ)) : Pen ℝ × List (Command ℝ) :=
  (out.1.stretched s, out.2.map (Command.stretched s))

theorem resized_one : pen.resized 1 s = pen.stretched s := by
  simp only [resized, stretched, Point.stretch_one, Option.map_id']

/-- Instructions leave the stretched commands in the space that is stretched further. -/
theorem run_stretched {is : List (Instruction ℝ)} (his : ∀ i ∈ is, i.isAppend = false) :
    (pen.stretched s).run is = stretchedOut s (pen.run is) := by
  have hrun := pen.run_resized 1 s fun i (_ : i ∈ is) => i.turnsAlike_one
  have his' : is.map (Instruction.resized 1 s) = is :=
    (List.map_congr_left fun i hi => Instruction.resized_one s (his i hi)).trans (List.map_id is)
  rw [his', resizedOut, resized_one, resized_one, one_mul] at hrun
  exact hrun

end Pen

/-! ## Drawings in a space of their own -/

/-- How a space is stretched onto a box, when both have an interior. -/
noncomputable def Stretch.onto (target space : Extent ℝ) (htw : 0 < target.w) (hth : 0 < target.h)
    (hsw : 0 < space.w) (hsh : 0 < space.h) : Stretch :=
  ⟨target.w / space.w, target.h / space.h, div_pos htw hsw, div_pos hth hsh⟩

section

variable {target space : Extent ℝ} (htw : 0 < target.w) (hth : 0 < target.h) (hsw : 0 < space.w)
  (hsh : 0 < space.h)

/-- The pen of a space of its own is that of the box, its space stretched. -/
theorem Pen.inSpace_eq_stretched :
    Pen.inSpace target.w target.h space.w space.h
      = Pen.plain.stretched (.onto target space htw hth hsw hsh) := by
  have hscale : Point.stretch ⟨1, 1⟩ (Stretch.onto target space htw hth hsw hsh).scale
      = ⟨target.w / space.w, target.h / space.h⟩ :=
    congrArg₂ Point.mk (one_mul _) (one_mul _)
  rw [stretched, plain_scale, hscale, inSpace, factor, factor, Exact.literal_zero, if_pos hsw,
    if_pos hsh]

include htw hth hsw hsh in
/-- A drawing in a space of its own is the drawing in the box, scaled per axis. -/
theorem Path.drawnIn_eq_scaled {is : List (Instruction ℝ)} (his : ∀ i ∈ is, i.isAppend = false) :
    drawnIn target.w target.h space.w space.h is
      = (drawn is).scaled (target.w / space.w) (target.h / space.h) := by
  have hrun := Pen.run_stretched (.onto target space htw hth hsw hsh) Pen.plain his
  rw [← Pen.inSpace_eq_stretched] at hrun
  have hscaled := (drawn is).scaled_eq_stretched (.onto target space htw hth hsw hsh)
  exact (congrArg (fun out => Path.mk out.2) hrun).trans hscaled.symm

/-- What a segment tells the pen appends nothing. -/
theorem Segment.isAppend_instruction {α : Type} [Scalar α] (g : Segment α) :
    g.instruction.isAppend = false := by
  cases g <;> rfl

include htw hth hsw hsh in
/-- The outline of a custom path that has a space of its own. -/
theorem CustomPath.outline_eq_scaled {path : CustomPath ℝ} (hspace : path.extent = some space) :
    path.outline target
      = (Path.drawn path.instructions).scaled (target.w / space.w) (target.h / space.h) := by
  have hinstructions : ∀ i ∈ path.instructions, i.isAppend = false := by
    intro i hi
    obtain ⟨e, -, rfl⟩ := List.mem_map.mp hi
    exact e.segment.isAppend_instruction
  rw [outline, hspace]
  exact Path.drawnIn_eq_scaled htw hth hsw hsh hinstructions

include htw hth hsw hsh in
/-- A pen in a space of its own that is stretched onto a box is, after any instructions but appended
fragments, where the pen of the box is after the same instructions, and what it leaves is what that pen
leaves, scaled per axis. So a custom path with a space of its own adds to an outline its drawing in the
box, scaled per axis. -/
theorem Pen.run_inSpace {is : List (Instruction ℝ)} (his : ∀ i ∈ is, i.isAppend = false) :
    let own := (inSpace target.w target.h space.w space.h).run is
    let box := plain.run is
    own.1.position = box.1.position ∧ own.1.subpathStart = box.1.subpathStart ∧
      own.1.drawing = box.1.drawing ∧
      Path.mk own.2 = (Path.mk box.2).scaled (target.w / space.w) (target.h / space.h) ∧
      ∀ path : CustomPath ℝ, path.extent = some space → ∀ before after : List (CustomPath ℝ),
        customOutline (before ++ path :: after) target
          = customOutline before target
            ++ (Path.drawn path.instructions).scaled (target.w / space.w) (target.h / space.h)
            ++ customOutline after target := by
  have hrun := run_stretched (.onto target space htw hth hsw hsh) plain his
  rw [← inSpace_eq_stretched] at hrun
  -- a stretched space changes nothing of the pen but its scale
  have hpen : ((inSpace target.w target.h space.w space.h).run is).1
      = (plain.run is).1.stretched (.onto target space htw hth hsw hsh) := congrArg Prod.fst hrun
  dsimp only
  rw [hpen]
  refine ⟨rfl, rfl, rfl, Path.drawnIn_eq_scaled htw hth hsw hsh his, ?_⟩
  intro path hspace before after
  rw [customOutline_append, customOutline_cons, path.outline_eq_scaled htw hth hsw hsh hspace]
  exact congrArg Path.mk (List.append_assoc _ _ _).symm

/-- An ellipse, a closed triangle, an open chain, a segment and a wedge that is welded to a curve, drawn in
a space of 2 by 4 on a box of 200 by 100. -/
theorem Pen.run_inSpace_figures :
    let is : List (Instruction ℝ) :=
      Instruction.ellipse 1 2 1 2 ++ Instruction.polygon [(0, 0), (2, 0), (1, 4)]
        ++ Instruction.polyline [(0, 4), (1, 3), (2, 4)] ++ Instruction.segment 0 0 2 4
        ++ [.moveTo 0 2, .quadTo 1 4 2 2, .arc ⟨⟨1, 2⟩, 1, 2, 0, 270⟩ true, .arcTo 1 2 90 (-90), .close]
    (∀ i ∈ is, i.isAppend = false) ∧
      Path.mk ((Pen.inSpace (200 : ℝ) 100 2 4).run is).2
        = (Path.mk (Pen.plain.run is).2).scaled (200 / 2) (100 / 4) := by
  intro is
  have his : ∀ i ∈ is, i.isAppend = false := by
    simp only [is, List.forall_mem_append]
    exact ⟨⟨⟨⟨Instruction.isAppend_ellipse _ _ _ _, Instruction.isAppend_polygon _⟩,
      Instruction.isAppend_polyline _⟩, Instruction.isAppend_segment _ _ _ _⟩,
      by simp [Instruction.isAppend]⟩
  obtain ⟨-, -, -, hpath, -⟩ := @Pen.run_inSpace ⟨200, 100⟩ ⟨2, 4⟩ (by norm_num) (by norm_num)
    (by norm_num) (by norm_num) is his
  exact ⟨his, hpath⟩

end

end ShapeOutline
