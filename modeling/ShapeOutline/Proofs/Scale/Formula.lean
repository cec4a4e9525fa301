import Mathlib
import ShapeOutline.Proofs.Scale.Angle
import ShapeOutline.Proofs.Guide.Declared

/-!
# Formulas at another size

A formula is homogeneous when, in a larger box and with the same guides, it gives the larger outline.
The lemmas here carry `grown` from the frame to the coordinates that are read off it, and from the
outline to the coordinates that it is drawn with, so that `simp` can compare the two.

* `Frame.grown`: the frame of a larger box, and what is read off it;
* `Instruction.map_grown_polygon`, `Instruction.steady_polygon`, ...: figures made of several
  instructions;
* `Homogeneous`: the formula gives the same outline at every size.
-/

namespace ShapeOutline

open Exact

/-! ## Computing from guides -/

namespace Guided

variable {β γ δ : Type}

@[simp] theorem map_ok (g : β → γ) (a : β) : Except.map g (.ok a : Guided β) = .ok (g a) := rfl

@[simp] theorem map_bind (x : Guided β) (k : β → Guided γ) (g : γ → δ) :
    Except.map g (x >>= k) = x >>= fun a => Except.map g (k a) := by
  cases x <;> rfl

@[simp] theorem bind_map (x : Guided β) (g : β → γ) (k : γ → Guided δ) :
    Except.map g x >>= k = x >>= fun a => k (g a) := by
  cases x <;> rfl

@[simp] theorem pure_eq (a : β) : (pure a : Guided β) = .ok a := rfl

end Guided

variable (r : Ratio)

namespace Frame

variable (f : Frame ℝ)

/-- The frame of a larger box, with the same guides. -/
def grown : Frame ℝ := ⟨ShapeOutline.grown r f.w, ShapeOutline.grown r f.h, f.guides⟩

@[simp] theorem w_grown : (f.grown r).w = ShapeOutline.grown r f.w := rfl

@[simp] theorem h_grown : (f.grown r).h = ShapeOutline.grown r f.h := rfl

@[simp] theorem transposed_grown : (f.grown r).transposed = f.transposed.grown r := rfl

@[simp] theorem ss_grown : (f.grown r).ss = ShapeOutline.grown r f.ss := min_grown r f.w f.h

@[simp] theorem hc_grown : (f.grown r).hc = ShapeOutline.grown r f.hc := grown_div r f.w _

@[simp] theorem vc_grown : (f.grown r).vc = ShapeOutline.grown r f.vc := grown_div r f.h _

@[simp] theorem wd2_grown : (f.grown r).wd2 = ShapeOutline.grown r f.wd2 := grown_div r f.w _

@[simp] theorem hd2_grown : (f.grown r).hd2 = ShapeOutline.grown r f.hd2 := grown_div r f.h _

@[simp] theorem adj_grown (name : String) : (f.grown r).adj name = f.adj name := rfl

@[simp] theorem angle_grown (name : String) : (f.grown r).angle name = f.angle name := rfl

@[simp] theorem ofShort_grown (a : ℝ) :
    (f.grown r).ofShort a = ShapeOutline.grown r (f.ofShort a) := by
  simp only [ofShort, ss_grown, grown_mul, grown_div]

@[simp] theorem ofWidth_grown (a : ℝ) :
    (f.grown r).ofWidth a = ShapeOutline.grown r (f.ofWidth a) := by
  simp only [ofWidth, w_grown, grown_mul, grown_div]

@[simp] theorem ofHeight_grown (a : ℝ) :
    (f.grown r).ofHeight a = ShapeOutline.grown r (f.ofHeight a) := by
  simp only [ofHeight, h_grown, grown_mul, grown_div]

@[simp] theorem maxAdj_grown (length : ℝ) :
    (f.grown r).maxAdj (ShapeOutline.grown r length) = f.maxAdj length := by
  simp only [maxAdj, ss_grown, mul_grown, quotient_grown_grown]

@[simp] theorem shortShare_grown (name : String) (limit : ℝ) :
    (f.grown r).shortShare name limit
      = (f.shortShare name limit).map (ShapeOutline.grown r) := by
  simp only [shortShare, adj_grown, ofShort_grown]
  cases f.adj name <;> rfl

end Frame

namespace Instruction

variable (points : List (ℝ × ℝ)) (x1 y1 x2 y2 cx cy rx ry : ℝ)

/-! ## Figures -/

@[simp] theorem map_grown_polyline :
    (polyline points).map (grown r) = polyline (points.map (grownPair r)) := by
  cases points with
  | nil => rfl
  | cons p ps =>
    show grown r (.moveTo p.1 p.2) :: (ps.map fun p => .lineTo p.1 p.2).map (grown r) = _
    rw [List.map_map, List.map_cons, polyline, List.map_map]
    rfl

@[simp] theorem map_grown_polygon :
    (polygon points).map (grown r) = polygon (points.map (grownPair r)) := by
  cases points with
  | nil => rfl
  | cons p ps =>
    show (polyline (p :: ps) ++ [close]).map (grown r) = _
    rw [List.map_append, map_grown_polyline]
    rfl

@[simp] theorem map_grown_segment :
    (segment x1 y1 x2 y2).map (grown r)
      = segment (ShapeOutline.grown r x1) (ShapeOutline.grown r y1) (ShapeOutline.grown r x2)
          (ShapeOutline.grown r y2) := rfl

@[simp] theorem map_grown_ellipse :
    (ellipse cx cy rx ry).map (grown r)
      = ellipse (ShapeOutline.grown r cx) (ShapeOutline.grown r cy) (ShapeOutline.grown r rx)
          (ShapeOutline.grown r ry) := by
  simp [ellipse]

@[simp] theorem steady_polyline : Steady r (polyline points) := by
  cases points with
  | nil => exact steady_nil r
  | cons p ps =>
    refine (steady_cons r _ _).mpr ⟨keepsAngles_moveTo r p.1 p.2, fun i hi => ?_⟩
    obtain ⟨q, -, rfl⟩ := List.mem_map.mp hi
    exact keepsAngles_lineTo r q.1 q.2

@[simp] theorem steady_polygon : Steady r (polygon points) := by
  cases points with
  | nil => exact steady_nil r
  | cons p ps =>
    have hclose : Steady r [close] := List.forall_mem_singleton.mpr (keepsAngles_close r)
    exact (steady_append r _ _).mpr ⟨steady_polyline r (p :: ps), hclose⟩

@[simp] theorem steady_segment : Steady r (segment x1 y1 x2 y2) := by
  simp [segment]

/-- A whole ellipse is drawn from a direction along its axis. -/
@[simp] theorem steady_ellipse : Steady r (ellipse cx cy rx ry) := by
  simp [ellipse]

end Instruction

namespace Path

@[simp] theorem grown_drawn {is : List (Instruction ℝ)} (his : Instruction.Steady r is) :
    (drawn is).grown r = drawn (is.map (Instruction.grown r)) :=
  (drawn_grown r his).symm

@[simp] theorem polygon_grown (points : List (ℝ × ℝ)) :
    (polygon points).grown r = polygon (points.map (grownPair r)) := by
  unfold polygon
  rw [grown_drawn r (Instruction.steady_polygon r points), Instruction.map_grown_polygon]

end Path

/-! ## The property -/

/-- In a larger box and with the same guides, the formula gives the larger outline. A formula that sees
points of the ellipse in oblique directions does so as far as that ellipse is taken for a circle at
both sizes or at neither. -/
def Homogeneous (oblique : Bool) (formula : Frame ℝ → Guided (Path ℝ)) : Prop :=
  ∀ (r : Ratio) (f : Frame ℝ), (oblique = true → SameRoundness r f.wd2 f.hd2) →
    formula (f.grown r) = (formula f).map (Path.grown r)

/-- The same for a drawing that reads no guides. -/
def Grows (draw : Frame ℝ → Path ℝ) : Prop :=
  ∀ (r : Ratio) (f : Frame ℝ), draw (f.grown r) = (draw f).grown r

namespace Homogeneous

variable {formula : Frame ℝ → Guided (Path ℝ)}

theorem transposed (h : Homogeneous false formula) :
    Homogeneous false fun f => (formula f.transposed).map Path.transposed := by
  intro r f _
  have hgrown := h r f.transposed (nomatch ·)
  dsimp only
  rw [Frame.transposed_grown, hgrown]
  cases formula f.transposed with
  | error e => rfl
  | ok p => exact congrArg Except.ok (Path.transposed_grown r p)

theorem flipped (h : Homogeneous false formula) (horizontally vertically : Bool) :
    Homogeneous false fun f => (formula f).map (Path.flipped f.w f.h horizontally vertically) := by
  intro r f _
  have hgrown := h r f (nomatch ·)
  dsimp only
  rw [hgrown]
  cases formula f with
  | error e => rfl
  | ok p => exact congrArg Except.ok (Path.flipped_grown r f.w f.h horizontally vertically p)

end Homogeneous

end ShapeOutline
