import Mathlib
import ShapeOutline.Proofs.Division.Arithmetic
import ShapeOutline.Proofs.Pen.Track

/-!
# Drawing with numbers that may be something else

A pen that is told numbers leaves commands of numbers, those of the real numbers. It divides by the extent
of its local space only where there is one, and by its scale only where it follows a fragment of a path. The
scale of a box without extent is zero; what is drawn there has no fragments in it.

* `Point.lifted`, `Arc.lifted`, `Command.lifted`, `Path.lifted`: drawings among the others;
* `Instruction.Measurable`: the pen need not divide by a scale that is zero;
* `Pen.step_lifted`, `Pen.run_lifted`: one instruction, and all of them;
* `Path.drawn_lifted`, `Path.drawnIn_lifted`: drawing in the box and in a space of its own.
-/

namespace ShapeOutline

open RealExtension

variable {α : Type} [RealExtension α]

/-! ## Points -/

/-- A point given by numbers. -/
def Point.lifted (p : Point ℝ) : Point α := ⟨RealExtension.lifted p.x, RealExtension.lifted p.y⟩

/-- The same for a point that is given by its coordinates. -/
@[simp] def liftedPair (p : ℝ × ℝ) : α × α := (lifted p.1, lifted p.2)

namespace Point

variable (p q s : Point ℝ) (k x y : ℝ)

@[simp] theorem x_lifted : (p.lifted : Point α).x = RealExtension.lifted p.x := rfl

@[simp] theorem y_lifted : (p.lifted : Point α).y = RealExtension.lifted p.y := rfl

@[simp] theorem mk_lifted :
    (⟨RealExtension.lifted x, RealExtension.lifted y⟩ : Point α) = lifted ⟨x, y⟩ := rfl

@[simp] theorem origin_lifted : (origin : Point α) = lifted origin := by
  simp only [origin, literal_lifted, mk_lifted]

@[simp] theorem add_lifted : (p.lifted + q.lifted : Point α) = (p + q).lifted :=
  congrArg₂ mk (lifted_add p.x q.x) (lifted_add p.y q.y)

@[simp] theorem sub_lifted : (p.lifted - q.lifted : Point α) = (p - q).lifted :=
  congrArg₂ mk (lifted_sub p.x q.x) (lifted_sub p.y q.y)

@[simp] theorem times_lifted :
    (p.lifted : Point α).times (RealExtension.lifted k) = (p.times k).lifted :=
  congrArg₂ mk (lifted_mul p.x k) (lifted_mul p.y k)

@[simp] theorem stretch_lifted : (p.lifted : Point α).stretch s.lifted = (p.stretch s).lifted :=
  congrArg₂ mk (lifted_mul p.x s.x) (lifted_mul p.y s.y)

@[simp] theorem map_lifted : (p.lifted : Point α).map s.lifted q.lifted = (p.map s q).lifted := by
  simp only [map, stretch_lifted, add_lifted]

@[simp] theorem transpose_lifted : (p.lifted : Point α).transpose = p.transpose.lifted := rfl

end Point

/-! ## Arcs, commands and paths -/

@[simp] theorem ellipsePoint_lifted (center : Point ℝ) (rx ry deg : ℝ) :
    ellipsePoint (center.lifted : Point α) (lifted rx) (lifted ry) (lifted deg)
      = (ellipsePoint center rx ry deg).lifted := by
  simp only [ellipsePoint, sinCos_lifted, lifted_mul, Point.mk_lifted, Point.add_lifted]

namespace Arc

/-- An arc given by numbers. -/
def lifted (a : Arc ℝ) : Arc α :=
  ⟨a.center.lifted, RealExtension.lifted a.rx, RealExtension.lifted a.ry,
    RealExtension.lifted a.start, RealExtension.lifted a.stop⟩

variable (a : Arc ℝ)

@[simp] theorem mk_lifted (center : Point ℝ) (rx ry start stop : ℝ) :
    (⟨center.lifted, RealExtension.lifted rx, RealExtension.lifted ry, RealExtension.lifted start,
      RealExtension.lifted stop⟩ : Arc α) = lifted ⟨center, rx, ry, start, stop⟩ := rfl

@[simp] theorem isDegenerate_lifted : (a.lifted : Arc α).isDegenerate = a.isDegenerate := by
  simp only [isDegenerate, lifted, literal_lifted, lifted_lt, isFinite_lifted]
  rfl

@[simp] theorem startPoint_lifted : (a.lifted : Arc α).startPoint = a.startPoint.lifted :=
  ellipsePoint_lifted a.center a.rx a.ry a.start

@[simp] theorem stopPoint_lifted :
    (a.lifted : Arc α).pointAt (a.lifted : Arc α).stop = (a.pointAt a.stop).lifted :=
  ellipsePoint_lifted a.center a.rx a.ry a.stop

@[simp] theorem clockwise_lifted : (a.lifted : Arc α).clockwise = a.clockwise.lifted := by
  simp only [clockwise, sweep, lifted, clockwiseSweep_lifted, lifted_add]

theorem reflectAngle_lifted (scale : Point ℝ) (deg : ℝ) :
    reflectAngle (scale.lifted : Point α) (RealExtension.lifted deg)
      = RealExtension.lifted (reflectAngle scale deg) := by
  simp only [reflectAngle, Point.x_lifted, Point.y_lifted, literal_lifted, lifted_lt, lifted_sub,
    neg_lifted, ite_lifted]

theorem mapped_lifted (scale offset : Point ℝ) :
    (a.lifted : Arc α).mapped scale.lifted offset.lifted = (a.mapped scale offset).lifted := by
  simp only [mapped, lifted, Point.map_lifted, Point.x_lifted, Point.y_lifted, abs_lifted, lifted_mul,
    reflectAngle_lifted]

theorem transposed_lifted : (a.lifted : Arc α).transposed = a.transposed.lifted := by
  simp only [transposed, lifted, Point.transpose_lifted, literal_lifted, lifted_sub]

end Arc

namespace Command

/-- A command given by numbers. -/
@[simp] def lifted : Command ℝ → Command α
  | moveTo p => moveTo p.lifted
  | lineTo p => lineTo p.lifted
  | cubicTo c1 c2 p => cubicTo c1.lifted c2.lifted p.lifted
  | arcTo a => arcTo a.lifted
  | close => close

variable (c : Command ℝ)

@[simp] theorem ofArc_lifted (a : Arc ℝ) : ofArc (a.lifted : Arc α) = (ofArc a).lifted := by
  simp only [ofArc, Arc.isDegenerate_lifted, Arc.startPoint_lifted]
  split <;> rfl

theorem mapped_lifted (scale offset : Point ℝ) :
    (c.lifted : Command α).mapped scale.lifted offset.lifted = (c.mapped scale offset).lifted := by
  cases c <;> simp [mapped, Arc.mapped_lifted]

theorem transposed_lifted : (c.lifted : Command α).transposed = c.transposed.lifted := by
  cases c <;> simp [transposed, Arc.transposed_lifted]

end Command

namespace Path

/-- A path given by numbers. -/
def lifted (p : Path ℝ) : Path α := ⟨p.commands.map Command.lifted⟩

variable (p q : Path ℝ)

@[simp] theorem lifted_append : ((p ++ q).lifted : Path α) = p.lifted ++ q.lifted :=
  congrArg Path.mk List.map_append

@[simp] theorem transposed_lifted : (p.lifted : Path α).transposed = p.transposed.lifted := by
  simp only [transposed, lifted, List.map_map]
  exact congrArg (fun g => Path.mk (p.commands.map g)) (funext Command.transposed_lifted)

theorem mapped_lifted (scale offset : Point ℝ) :
    (p.lifted : Path α).mapped scale.lifted offset.lifted = (p.mapped scale offset).lifted := by
  simp only [mapped, lifted, List.map_map]
  exact congrArg (fun g => Path.mk (p.commands.map g))
    (funext fun c => c.mapped_lifted scale offset)

@[simp] theorem scaled_lifted (sx sy : ℝ) :
    (p.lifted : Path α).scaled (RealExtension.lifted sx) (RealExtension.lifted sy)
      = (p.scaled sx sy).lifted := by
  simp only [scaled, Point.mk_lifted, Point.origin_lifted, mapped_lifted]

@[simp] theorem flipped_lifted (w h : ℝ) (horizontally vertically : Bool) :
    (p.lifted : Path α).flipped (RealExtension.lifted w) (RealExtension.lifted h) horizontally
        vertically
      = (p.flipped w h horizontally vertically).lifted := by
  simp only [flipped, literal_lifted, neg_lifted, ite_lifted, Point.mk_lifted, mapped_lifted]
  split <;> rfl

theorem ofArc_lifted (a : Arc ℝ) (wedge : Bool) :
    ofArc (a.lifted : Arc α) wedge = (ofArc a wedge).lifted := by
  simp only [ofArc, Arc.isDegenerate_lifted, Arc.startPoint_lifted, Arc.clockwise_lifted]
  cases wedge <;> cases a.isDegenerate <;> rfl

end Path

/-! ## The pen -/

namespace Instruction

/-- An instruction given by numbers. -/
@[simp] def lifted : Instruction ℝ → Instruction α
  | moveTo x y => moveTo (RealExtension.lifted x) (RealExtension.lifted y)
  | lineTo x y => lineTo (RealExtension.lifted x) (RealExtension.lifted y)
  | cubicTo x1 y1 x2 y2 x y =>
    cubicTo (RealExtension.lifted x1) (RealExtension.lifted y1) (RealExtension.lifted x2)
      (RealExtension.lifted y2) (RealExtension.lifted x) (RealExtension.lifted y)
  | quadTo qx qy x y =>
    quadTo (RealExtension.lifted qx) (RealExtension.lifted qy) (RealExtension.lifted x)
      (RealExtension.lifted y)
  | arcTo wr hr start sweep =>
    arcTo (RealExtension.lifted wr) (RealExtension.lifted hr) (RealExtension.lifted start)
      (RealExtension.lifted sweep)
  | arc spec wedge => arc spec.lifted wedge
  | append fragment => append fragment.lifted
  | close => close

/-- The pen draws the instruction itself, or its scale is one by which it can divide. -/
def Measurable (scale : Point ℝ) (i : Instruction ℝ) : Prop :=
  i.isDirect = true ∨ scale.x ≠ 0 ∧ scale.y ≠ 0

end Instruction

namespace Pen

/-- A pen given by numbers. -/
def lifted (pen : Pen ℝ) : Pen α :=
  ⟨pen.scale.lifted, pen.position.map Point.lifted, pen.subpathStart.map Point.lifted, pen.drawing⟩

/-- A pen and the commands it left, given by numbers. -/
abbrev liftedOut (out : Pen ℝ × List (Command ℝ)) : Pen α × List (Command α) :=
  (out.1.lifted, out.2.map Command.lifted)

variable (pen : Pen ℝ)

@[simp] theorem toBox_lifted (p : Point ℝ) :
    (pen.lifted : Pen α).toBox p.lifted = (pen.toBox p).lifted := Point.stretch_lifted p pen.scale

@[simp] theorem movedTo_lifted (p : Point ℝ) :
    (pen.lifted : Pen α).movedTo p.lifted = (pen.movedTo p).lifted := rfl

@[simp] theorem drawnTo_lifted (p : Point ℝ) :
    (pen.lifted : Pen α).drawnTo p.lifted = (pen.drawnTo p).lifted := rfl

@[simp] theorem scale_lifted : (pen.lifted : Pen α).scale = pen.scale.lifted := rfl

theorem plain_lifted : (plain : Pen α) = lifted plain := by
  simp only [plain, lifted, literal_lifted, Point.mk_lifted, Option.map_none]

/-- A local space without extent is not divided by. -/
theorem factor_lifted (target extent : ℝ) :
    factor (RealExtension.lifted target) (RealExtension.lifted extent)
      = (RealExtension.lifted (factor target extent) : α) := by
  simp only [factor, literal_lifted, lifted_lt]
  split
  · next hpos =>
    rw [Exact.literal_zero] at hpos
    exact lifted_div target hpos.ne'
  · rfl

theorem inSpace_lifted (targetW targetH localW localH : ℝ) :
    (inSpace (RealExtension.lifted targetW) (RealExtension.lifted targetH)
        (RealExtension.lifted localW) (RealExtension.lifted localH) : Pen α)
      = (inSpace targetW targetH localW localH).lifted := by
  simp only [inSpace, plain_lifted, factor_lifted, Point.mk_lifted]
  rfl

/-! ### One instruction -/

theorem ready_lifted :
    (pen.lifted : Pen α).ready
      = (pen.ready.1.lifted, pen.ready.2.1.lifted, pen.ready.2.2.map Command.lifted) := by
  obtain ⟨scale, position, start, drawing⟩ := pen
  cases position with
  | none => simp [ready, lifted, movedTo, toBox]
  | some p => rfl

theorem line_lifted (p : Point ℝ) : (pen.lifted : Pen α).line p.lifted = liftedOut (pen.line p) := by
  simp only [line, ready_lifted, drawnTo_lifted, toBox_lifted, liftedOut, List.map_append]
  rfl

theorem cubic_lifted (c1 c2 p : Point ℝ) :
    (pen.lifted : Pen α).cubic c1.lifted c2.lifted p.lifted = liftedOut (pen.cubic c1 c2 p) := by
  simp only [cubic, ready_lifted, drawnTo_lifted, toBox_lifted, liftedOut, List.map_append]
  rfl

theorem elevate_lifted (p q : Point ℝ) :
    elevate (p.lifted : Point α) q.lifted = (elevate p q).lifted := by
  simp only [elevate, literal_lifted, lifted_div_literal, Point.sub_lifted, Point.times_lifted,
    Point.add_lifted]

theorem quadratic_lifted (q p : Point ℝ) :
    (pen.lifted : Pen α).quadratic q.lifted p.lifted = liftedOut (pen.quadratic q p) := by
  simp only [quadratic, ready_lifted, elevate_lifted, cubic_lifted, liftedOut, List.map_append]

theorem ellipticalArc_lifted (wr hr start sweep : ℝ) :
    (pen.lifted : Pen α).ellipticalArc (RealExtension.lifted wr) (RealExtension.lifted hr)
        (RealExtension.lifted start) (RealExtension.lifted sweep)
      = liftedOut (pen.ellipticalArc wr hr start sweep) := by
  simp only [ellipticalArc, ready_lifted, literal_lifted, lifted_lt]
  split
  · simp [liftedOut]
  · simp only [line_lifted, liftedOut, List.map_append]

theorem closed_lifted : (pen.lifted : Pen α).closed = liftedOut pen.closed := by
  obtain ⟨scale, position, start, drawing⟩ := pen
  cases position <;> rfl

section

variable {pen : Pen ℝ}

/-- A fragment is followed in local space, for which the scale is divided by. -/
theorem follow_lifted (hx : pen.scale.x ≠ 0) (hy : pen.scale.y ≠ 0) (c : Command ℝ) :
    (pen.lifted : Pen α).follow c.lifted = (pen.follow c).lifted := by
  cases c with
  | close => rfl
  | moveTo p =>
    simp only [Command.lifted, follow, scale_lifted, Point.x_lifted, Point.y_lifted, literal_lifted,
      lifted_div _ hx, lifted_div _ hy, Point.mk_lifted, Point.stretch_lifted, movedTo_lifted]
  | _ =>
    simp [follow, Command.endPoint?, lifted, lifted_div _ hx, lifted_div _ hy]

theorem follow_scale (c : Command ℝ) : (pen.follow c).scale = pen.scale := by
  cases c <;> rfl

theorem foldl_follow_scale (cs : List (Command ℝ)) : (cs.foldl follow pen).scale = pen.scale := by
  induction cs generalizing pen with
  | nil => rfl
  | cons c cs ih => exact ih.trans (follow_scale c)

theorem append_scale (fragment : Path ℝ) : (pen.append fragment).1.scale = pen.scale := by
  unfold append
  split <;> exact foldl_follow_scale _

/-- No instruction changes the local space. -/
theorem step_scale_eq (i : Instruction ℝ) : (pen.step i).1.scale = pen.scale := by
  cases i with
  | append fragment => exact append_scale fragment
  | arc spec wedge => exact append_scale _
  | _ => exact pen.step_scale rfl

theorem foldl_follow_lifted (hx : pen.scale.x ≠ 0) (hy : pen.scale.y ≠ 0) (cs : List (Command ℝ)) :
    (cs.map Command.lifted).foldl follow (pen.lifted : Pen α) = (cs.foldl follow pen).lifted := by
  induction cs generalizing pen with
  | nil => rfl
  | cons c cs ih =>
    rw [List.map_cons, List.foldl_cons, List.foldl_cons, follow_lifted hx hy]
    rw [← follow_scale c] at hx hy
    exact ih hx hy

theorem append_lifted (hx : pen.scale.x ≠ 0) (hy : pen.scale.y ≠ 0) (fragment : Path ℝ) :
    (pen.lifted : Pen α).append fragment.lifted = liftedOut (pen.append fragment) := by
  obtain ⟨scale, position, start, drawing⟩ := pen
  obtain ⟨cs⟩ := fragment
  -- a pen that is drawing draws a line in place of the move that a fragment begins with
  cases drawing with
  | false => exact congrArg (Prod.mk · _) (foldl_follow_lifted hx hy cs)
  | true =>
    cases cs with
    | nil => rfl
    | cons c cs =>
      cases c with
      | moveTo p => exact congrArg (Prod.mk · _) (foldl_follow_lifted hx hy cs)
      | _ => exact congrArg (Prod.mk · _) (foldl_follow_lifted hx hy (_ :: cs))

/-- What an instruction of numbers does to a pen of numbers. -/
theorem step_lifted {i : Instruction ℝ} (hi : i.Measurable pen.scale) :
    (pen.lifted : Pen α).step i.lifted = liftedOut (pen.step i) := by
  cases i with
  | moveTo x y => simp [step]
  | lineTo x y => exact pen.line_lifted ⟨x, y⟩
  | cubicTo x1 y1 x2 y2 x y => exact pen.cubic_lifted ⟨x1, y1⟩ ⟨x2, y2⟩ ⟨x, y⟩
  | quadTo qx qy x y => exact pen.quadratic_lifted ⟨qx, qy⟩ ⟨x, y⟩
  | arcTo wr hr start sweep => exact pen.ellipticalArc_lifted wr hr start sweep
  | close => exact pen.closed_lifted
  | append fragment =>
    obtain ⟨hx, hy⟩ := hi.resolve_left Bool.false_ne_true
    exact append_lifted hx hy fragment
  | arc spec wedge =>
    obtain ⟨hx, hy⟩ := hi.resolve_left Bool.false_ne_true
    simp only [Instruction.lifted, step, Path.ofArc_lifted, scale_lifted, Point.x_lifted,
      Point.y_lifted, Path.scaled_lifted, append_lifted hx hy]

/-- What instructions of numbers do to a pen of numbers. -/
theorem run_lifted {is : List (Instruction ℝ)} (his : ∀ i ∈ is, i.Measurable pen.scale) :
    (pen.lifted : Pen α).run (is.map Instruction.lifted) = liftedOut (pen.run is) := by
  induction is generalizing pen with
  | nil => rfl
  | cons i is ih =>
    obtain ⟨hi, his⟩ := List.forall_mem_cons.mp his
    rw [← step_scale_eq i] at his
    have hrest := ih his
    simp only [List.map_cons, run, step_lifted hi, hrest, liftedOut, List.map_append]

end

end Pen

/-! ## Paths that were drawn -/

namespace Path

/-- In the box itself every instruction can be drawn. -/
theorem drawn_lifted (is : List (Instruction ℝ)) :
    drawn (is.map Instruction.lifted : List (Instruction α)) = (drawn is).lifted := by
  have hone : (Pen.plain : Pen ℝ).scale.x ≠ 0 ∧ (Pen.plain : Pen ℝ).scale.y ≠ 0 := by
    simp [Pen.plain, Exact.literal_one]
  have hrun := Pen.run_lifted (α := α) fun i (_ : i ∈ is) => .inr hone
  rw [← Pen.plain_lifted] at hrun
  exact congrArg Path.mk (congrArg Prod.snd hrun)

/-- In a space of its own, whatever it is stretched onto, the pen draws without a fragment. -/
theorem drawnIn_lifted (targetW targetH localW localH : ℝ) {is : List (Instruction ℝ)} {s : Sketch}
    (hs : Instruction.sketch? is = some s) :
    drawnIn (RealExtension.lifted targetW) (RealExtension.lifted targetH)
        (RealExtension.lifted localW) (RealExtension.lifted localH)
        (is.map Instruction.lifted : List (Instruction α))
      = (drawnIn targetW targetH localW localH is).lifted := by
  have hdirect : ∀ i ∈ is, i.Measurable (Pen.inSpace targetW targetH localW localH).scale :=
    fun i hi => .inl (Instruction.isDirect_of_sketchBefore? hs i hi)
  have hrun := Pen.run_lifted (α := α) hdirect
  rw [← Pen.inSpace_lifted] at hrun
  exact congrArg Path.mk (congrArg Prod.snd hrun)

end Path

end ShapeOutline
