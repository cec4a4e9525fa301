import Mathlib
import ShapeOutline.Proofs.Scale.Length
import ShapeOutline.Proofs.Pen.Stretch

/-!
# Drawing at another size

A drawing grows when it is stretched along both axes by one ratio. A pen that is told the same with all
lengths grown leaves the same commands grown, provided that the angles of its arcs are converted alike at
both sizes. In a space of its own nothing is told differently: there it is the stretch onto the box that
grows.

* `Point.grown`, `Arc.grown`, `Command.grown`, `Path.grown`: the larger drawing;
* `Path.scaled_eq_grown`: it is the drawing scaled by the ratio along both axes;
* `Instruction.KeepsAngles`, `Instruction.Steady`: the angles of an arc, and of all arcs of a drawing,
  are converted alike at both sizes;
* `Pen.run_grown`, `Path.drawn_grown`: drawing in the box;
* `Pen.run_spread`, `Path.drawnIn_grown`: drawing in a space of its own.
-/

namespace ShapeOutline

open Exact

variable (r : Ratio)

/-- The same ratio along both axes. -/
def Ratio.stretch : Stretch := ⟨r.value, r.value, r.pos, r.pos⟩

/-! ## Points -/

/-- A point of the larger drawing. -/
def Point.grown (p : Point ℝ) : Point ℝ := ⟨ShapeOutline.grown r p.x, ShapeOutline.grown r p.y⟩

/-- The same for a point that is given by its coordinates. -/
@[simp] def grownPair (p : ℝ × ℝ) : ℝ × ℝ := (grown r p.1, grown r p.2)

namespace Point

@[simp] theorem x_grown (p : Point ℝ) : (p.grown r).x = ShapeOutline.grown r p.x := rfl

@[simp] theorem y_grown (p : Point ℝ) : (p.grown r).y = ShapeOutline.grown r p.y := rfl

theorem map_grown (p s t : Point ℝ) : (p.grown r).map s (t.grown r) = (p.map s t).grown r := by
  have hstretch : (p.grown r).stretch s = (p.stretch s).grown r :=
    congrArg₂ Point.mk (grown_mul r _ _) (grown_mul r _ _)
  rw [map, hstretch]
  exact (p.stretch s).stretch_add t r.stretch.scale

end Point

/-! ## Arcs, commands and paths -/

theorem ellipsePoint_grown (center : Point ℝ) (rx ry deg : ℝ) :
    ellipsePoint (center.grown r) (grown r rx) (grown r ry) deg
      = (ellipsePoint center rx ry deg).grown r :=
  ellipsePoint_stretch r.stretch center rx ry deg

namespace Arc

/-- An arc of the larger drawing. -/
def grown (a : Arc ℝ) : Arc ℝ :=
  ⟨a.center.grown r, ShapeOutline.grown r a.rx, ShapeOutline.grown r a.ry, a.start, a.stop⟩

end Arc

namespace Command

/-- A command of the larger drawing. -/
def grown : Command ℝ → Command ℝ
  | moveTo p => moveTo (p.grown r)
  | lineTo p => lineTo (p.grown r)
  | cubicTo c1 c2 p => cubicTo (c1.grown r) (c2.grown r) (p.grown r)
  | arcTo a => arcTo (a.grown r)
  | close => close

theorem stretched_ratio (c : Command ℝ) : c.stretched r.stretch = c.grown r := by
  cases c <;> rfl

theorem transposed_grown (c : Command ℝ) : (c.grown r).transposed = c.transposed.grown r := by
  cases c <;> rfl

theorem mapped_grown (scale offset : Point ℝ) (c : Command ℝ) :
    (c.grown r).mapped scale (offset.grown r) = (c.mapped scale offset).grown r := by
  cases c with
  | close => rfl
  | arcTo a => simp only [grown, mapped, Arc.grown, Arc.mapped, Point.map_grown, grown_mul]
  | _ => simp only [grown, mapped, Point.map_grown]

end Command

namespace Path

/-- A path of the larger drawing. -/
def grown (p : Path ℝ) : Path ℝ := ⟨p.commands.map (Command.grown r)⟩

theorem stretched_ratio (p : Path ℝ) : p.stretched r.stretch = p.grown r :=
  congrArg (fun g => Path.mk (p.commands.map g)) (funext (Command.stretched_ratio r))

theorem scaled_eq_grown (p : Path ℝ) : p.scaled r.value r.value = p.grown r :=
  (p.scaled_eq_stretched r.stretch).trans (p.stretched_ratio r)

@[simp] theorem grown_append (p q : Path ℝ) : (p ++ q).grown r = p.grown r ++ q.grown r :=
  congrArg Path.mk List.map_append

@[simp] theorem transposed_grown (p : Path ℝ) :
    (p.grown r).transposed = p.transposed.grown r := by
  unfold transposed grown
  rw [List.map_map, List.map_map]
  congr 2
  exact funext (Command.transposed_grown r)

/-- Maps of the plane, with the shift grown too. -/
theorem mapped_grown (scale offset : Point ℝ) (p : Path ℝ) :
    (p.grown r).mapped scale (offset.grown r) = (p.mapped scale offset).grown r := by
  unfold mapped grown
  rw [List.map_map, List.map_map]
  congr 2
  exact funext (Command.mapped_grown r scale offset)

@[simp] theorem flipped_grown (w h : ℝ) (horizontally vertically : Bool) (p : Path ℝ) :
    (p.grown r).flipped (ShapeOutline.grown r w) (ShapeOutline.grown r h) horizontally vertically
      = (p.flipped w h horizontally vertically).grown r := by
  unfold flipped
  split
  · rfl
  · rw [← mapped_grown]
    cases horizontally <;> cases vertically <;> simp [Point.grown]

end Path

/-! ## Drawing in the box -/

namespace Instruction

/-- An instruction for the larger drawing. -/
@[simp] def grown : Instruction ℝ → Instruction ℝ
  | moveTo x y => moveTo (ShapeOutline.grown r x) (ShapeOutline.grown r y)
  | lineTo x y => lineTo (ShapeOutline.grown r x) (ShapeOutline.grown r y)
  | cubicTo x1 y1 x2 y2 x y =>
    cubicTo (ShapeOutline.grown r x1) (ShapeOutline.grown r y1) (ShapeOutline.grown r x2)
      (ShapeOutline.grown r y2) (ShapeOutline.grown r x) (ShapeOutline.grown r y)
  | quadTo qx qy x y =>
    quadTo (ShapeOutline.grown r qx) (ShapeOutline.grown r qy) (ShapeOutline.grown r x)
      (ShapeOutline.grown r y)
  | arcTo wr hr start sweep =>
    arcTo (ShapeOutline.grown r wr) (ShapeOutline.grown r hr) start sweep
  | arc spec wedge => arc (spec.grown r) wedge
  | append fragment => append (fragment.grown r)
  | close => close

/-- The directions at which an arc begins and ends are converted alike at both sizes. -/
def KeepsAngles : Instruction ℝ → Prop
  | arcTo wr hr start sweep =>
    ∀ deg ∈ [start, start + sweep],
      parametricAngle deg (ShapeOutline.grown r wr) (ShapeOutline.grown r hr)
        = parametricAngle deg wr hr
  | _ => True

section

variable (x y x1 y1 x2 y2 : ℝ) (spec : Arc ℝ) (wedge : Bool) (fragment : Path ℝ)

@[simp] theorem keepsAngles_moveTo : (moveTo x y).KeepsAngles r := trivial

@[simp] theorem keepsAngles_lineTo : (lineTo x y).KeepsAngles r := trivial

@[simp] theorem keepsAngles_cubicTo : (cubicTo x1 y1 x2 y2 x y).KeepsAngles r := trivial

@[simp] theorem keepsAngles_quadTo : (quadTo x1 y1 x y).KeepsAngles r := trivial

@[simp] theorem keepsAngles_append : (append fragment).KeepsAngles r := trivial

@[simp] theorem keepsAngles_close : (close : Instruction ℝ).KeepsAngles r := trivial

end

/-- The same for all arcs of a drawing. -/
def Steady (is : List (Instruction ℝ)) : Prop := ∀ i ∈ is, i.KeepsAngles r

section

variable (i : Instruction ℝ) (is₁ is₂ is : List (Instruction ℝ))

@[simp] theorem steady_nil : Steady r [] := List.forall_mem_nil _

@[simp] theorem steady_cons : Steady r (i :: is) ↔ i.KeepsAngles r ∧ Steady r is :=
  List.forall_mem_cons

@[simp] theorem steady_append : Steady r (is₁ ++ is₂) ↔ Steady r is₁ ∧ Steady r is₂ :=
  List.forall_mem_append

end

theorem KeepsAngles.turnsAlike {r : Ratio} {i : Instruction ℝ} (h : i.KeepsAngles r) :
    i.TurnsAlike r.stretch := by
  cases i with
  | arcTo wr hr start sweep => exact h
  | _ => trivial

theorem resized_ratio (i : Instruction ℝ) : i.resized r.stretch 1 = i.grown r := by
  cases i with
  | append fragment =>
    rw [resized, mul_one]
    exact congrArg append (fragment.stretched_ratio r)
  | _ => rfl

end Instruction

namespace Pen

variable (pen : Pen ℝ)

/-- The pen of the larger drawing. -/
def grown : Pen ℝ :=
  { pen with
    position := pen.position.map (Point.grown r)
    subpathStart := pen.subpathStart.map (Point.grown r) }

/-- The pen and the commands it left, in the larger drawing. -/
abbrev grownOut (out : Pen ℝ × List (Command ℝ)) : Pen ℝ × List (Command ℝ) :=
  (out.1.grown r, out.2.map (Command.grown r))

theorem resized_ratio : pen.resized r.stretch 1 = pen.grown r := by
  rw [resized, Point.stretch_one]
  rfl

/-- Instructions leave the same in the larger drawing, grown. -/
theorem run_grown {is : List (Instruction ℝ)} (his : Instruction.Steady r is) :
    (pen.grown r).run (is.map (Instruction.grown r)) = grownOut r (pen.run is) := by
  -- all lengths are stretched by the ratio, and the space is left as it is
  have hrun := pen.run_resized r.stretch 1 fun i hi => (his i hi).turnsAlike
  rw [resizedOut, resized_ratio, resized_ratio, mul_one, funext (Command.stretched_ratio r),
    funext (Instruction.resized_ratio r)] at hrun
  exact hrun

/-! ## Drawing in a space of its own -/

/-- The pen of a space that is stretched onto a larger box. -/
def spread : Pen ℝ := { pen with scale := pen.scale.grown r }

/-- The pen and the commands it left, where the space is stretched onto a larger box. -/
abbrev spreadOut (out : Pen ℝ × List (Command ℝ)) : Pen ℝ × List (Command ℝ) :=
  (out.1.spread r, out.2.map (Command.grown r))

/-- Instructions leave the same where the space is stretched onto a larger box, grown. -/
theorem run_spread {is : List (Instruction ℝ)} (his : ∀ i ∈ is, i.isDirect = true) :
    (pen.spread r).run is = spreadOut r (pen.run is) := by
  have hrun := pen.run_stretched r.stretch fun i hi => Instruction.isAppend_of_isDirect (his i hi)
  rw [stretchedOut, funext (Command.stretched_ratio r)] at hrun
  exact hrun

end Pen

/-! ## Paths that were drawn -/

namespace Path

/-- What is drawn with all lengths grown is the larger drawing. -/
theorem drawn_grown {is : List (Instruction ℝ)} (his : Instruction.Steady r is) :
    drawn (is.map (Instruction.grown r)) = (drawn is).grown r := by
  have hrun := Pen.run_grown r Pen.plain his
  exact congrArg Path.mk (congrArg Prod.snd hrun)

-- literals are those that formulas have
attribute [local instance] Scalar.literal

/-- What is drawn in a space of its own grows with the box. -/
theorem drawnIn_grown (targetW targetH : ℝ) (m n : ℕ) [NeZero m] [NeZero n]
    {is : List (Instruction ℝ)} {s : Sketch} (hs : Instruction.sketch? is = some s) :
    drawnIn (ShapeOutline.grown r targetW) (ShapeOutline.grown r targetH) (OfNat.ofNat m)
        (OfNat.ofNat n) is
      = (drawnIn targetW targetH (OfNat.ofNat m) (OfNat.ofNat n) is).grown r := by
  have hpos (n : ℕ) [NeZero n] : (0 : ℝ) < OfNat.ofNat n := by
    rw [literal_zero, literal_eq]
    exact Nat.cast_pos.mpr (NeZero.pos n)
  let pen : Pen ℝ := .inSpace targetW targetH (OfNat.ofNat m) (OfNat.ofNat n)
  have hspace : Pen.inSpace (ShapeOutline.grown r targetW) (ShapeOutline.grown r targetH)
      (OfNat.ofNat m) (OfNat.ofNat n) = pen.spread r := by
    simp only [pen, Pen.inSpace, Pen.spread, Pen.factor, if_pos (hpos _), grown_div, Point.grown]
  have hrun := pen.run_spread r (Instruction.isDirect_of_sketchBefore? hs)
  rw [← hspace] at hrun
  exact congrArg Path.mk (congrArg Prod.snd hrun)

end Path

end ShapeOutline
