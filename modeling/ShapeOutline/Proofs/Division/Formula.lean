import Mathlib
import ShapeOutline.Proofs.Division.Drawing
import ShapeOutline.Proofs.Division.Guides
import ShapeOutline.Proofs.Scale.Formula

/-!
# Formulas with numbers that may be something else

A formula gives numbers when, for a box and for guides that are numbers, it gives the outline of the real
numbers. The lemmas here carry `lifted` from the frame to the coordinates that are read off it, and from the
outline to the coordinates that it is drawn with, so that `simp` can compare the two.

* `Frame.lifted`: a frame of numbers, and what is read off it;
* `Instruction.map_lifted_polygon`, `Path.lifted_drawn`, ...: figures and what is drawn with them;
* `GivesNumbers`, `DrawsNumbers`: the property, of formulas and of drawings that read no guides.
-/

namespace ShapeOutline

open RealExtension

variable {α : Type} [RealExtension α]

/-! ## Frames -/

namespace Frame

variable (f : Frame ℝ)

/-- A frame of numbers. -/
def lifted : Frame α := ⟨RealExtension.lifted f.w, RealExtension.lifted f.h, f.guides.lifted⟩

/-- The guides are kept at a scale that can be divided by. -/
def Readable : Prop := f.guides.scale.factor ≠ 0

@[simp] theorem w_lifted : (f.lifted : Frame α).w = RealExtension.lifted f.w := rfl

@[simp] theorem h_lifted : (f.lifted : Frame α).h = RealExtension.lifted f.h := rfl

@[simp] theorem transposed_lifted : (f.lifted : Frame α).transposed = f.transposed.lifted := rfl

@[simp] theorem readable_transposed : f.transposed.Readable ↔ f.Readable := Iff.rfl

@[simp] theorem ss_lifted : (f.lifted : Frame α).ss = RealExtension.lifted f.ss :=
  min_lifted f.w f.h

@[simp] theorem hc_lifted : (f.lifted : Frame α).hc = RealExtension.lifted f.hc := by
  simp only [hc, w_lifted, literal_lifted, lifted_div_literal]

@[simp] theorem vc_lifted : (f.lifted : Frame α).vc = RealExtension.lifted f.vc := by
  simp only [vc, h_lifted, literal_lifted, lifted_div_literal]

@[simp] theorem wd2_lifted : (f.lifted : Frame α).wd2 = RealExtension.lifted f.wd2 := f.hc_lifted

@[simp] theorem hd2_lifted : (f.lifted : Frame α).hd2 = RealExtension.lifted f.hd2 := f.vc_lifted

@[simp] theorem ofShort_lifted (a : ℝ) :
    (f.lifted : Frame α).ofShort (RealExtension.lifted a) = RealExtension.lifted (f.ofShort a) := by
  simp only [ofShort, ss_lifted, lifted_mul, literal_lifted, lifted_div_literal]

@[simp] theorem ofWidth_lifted (a : ℝ) :
    (f.lifted : Frame α).ofWidth (RealExtension.lifted a) = RealExtension.lifted (f.ofWidth a) := by
  simp only [ofWidth, w_lifted, lifted_mul, literal_lifted, lifted_div_literal]

@[simp] theorem ofHeight_lifted (a : ℝ) :
    (f.lifted : Frame α).ofHeight (RealExtension.lifted a) = RealExtension.lifted (f.ofHeight a) := by
  simp only [ofHeight, h_lifted, lifted_mul, literal_lifted, lifted_div_literal]

/-- The share of a short side that is zero is guarded. -/
@[simp] theorem maxAdj_lifted (length : ℝ) :
    (f.lifted : Frame α).maxAdj (RealExtension.lifted length)
      = RealExtension.lifted (f.maxAdj length) := by
  simp only [maxAdj, ss_lifted, literal_lifted, lifted_mul, quotient_lifted]

section

variable {f : Frame ℝ}

@[simp] theorem adj_lifted (hf : f.Readable) (name : String) :
    (f.lifted : Frame α).adj name = (f.adj name).map RealExtension.lifted :=
  f.guides.raw_lifted hf name

@[simp] theorem angle_lifted (hf : f.Readable) (name : String) :
    (f.lifted : Frame α).angle name = (f.angle name).map RealExtension.lifted := by
  unfold angle
  rw [adj_lifted hf]
  cases f.adj name with
  | error e => rfl
  | ok a =>
    refine congrArg Except.ok ?_
    simp only [literal_lifted, lifted_div_literal]

@[simp] theorem shortShare_lifted (hf : f.Readable) (name : String) (limit : ℝ) :
    (f.lifted : Frame α).shortShare name (RealExtension.lifted limit)
      = (f.shortShare name limit).map RealExtension.lifted := by
  unfold shortShare
  rw [adj_lifted hf]
  cases f.adj name with
  | error e => rfl
  | ok a =>
    refine congrArg Except.ok ?_
    simp only [literal_lifted, pin_lifted, ofShort_lifted]

end

end Frame

/-! ## Figures -/

namespace Instruction

variable (points : List (ℝ × ℝ)) (x1 y1 x2 y2 cx cy rx ry : ℝ)

@[simp] theorem map_lifted_polyline :
    (polyline points).map (lifted (α := α)) = polyline (points.map liftedPair) := by
  cases points with
  | nil => rfl
  | cons p ps => simp [polyline]

@[simp] theorem map_lifted_polygon :
    (polygon points).map (lifted (α := α)) = polygon (points.map liftedPair) := by
  cases points with
  | nil => rfl
  | cons p ps => simp [polygon]

@[simp] theorem map_lifted_segment :
    (segment x1 y1 x2 y2).map (lifted (α := α))
      = segment (RealExtension.lifted x1) (RealExtension.lifted y1) (RealExtension.lifted x2)
          (RealExtension.lifted y2) := rfl

@[simp] theorem map_lifted_ellipse :
    (ellipse cx cy rx ry).map (lifted (α := α))
      = ellipse (RealExtension.lifted cx) (RealExtension.lifted cy) (RealExtension.lifted rx)
          (RealExtension.lifted ry) := by
  simp [ellipse]

end Instruction

namespace Path

@[simp] theorem lifted_drawn (is : List (Instruction ℝ)) :
    ((drawn is).lifted : Path α) = drawn (is.map Instruction.lifted) := (drawn_lifted is).symm

/-- The pen foretells what it draws when it draws all of it itself. -/
theorem lifted_drawnIn (targetW targetH localW localH : ℝ) {is : List (Instruction ℝ)}
    (his : (Instruction.sketch? is).isSome = true) :
    ((drawnIn targetW targetH localW localH is).lifted : Path α)
      = drawnIn (RealExtension.lifted targetW) (RealExtension.lifted targetH)
          (RealExtension.lifted localW) (RealExtension.lifted localH) (is.map Instruction.lifted) := by
  obtain ⟨s, hs⟩ := Option.isSome_iff_exists.mp his
  exact (drawnIn_lifted targetW targetH localW localH hs).symm

@[simp] theorem lifted_polygon (points : List (ℝ × ℝ)) :
    ((polygon points).lifted : Path α) = polygon (points.map liftedPair) := by
  unfold polygon
  rw [lifted_drawn, Instruction.map_lifted_polygon]

end Path

/-! ## The property -/

-- the properties stay open, for `simp` to rewrite formulas and drawings by theorems that state them

/-- For a box and for guides that are numbers, the formula gives the outline of the real numbers. -/
abbrev GivesNumbers (formula : {β : Type} → [Scalar β] → Frame β → Guided (Path β)) : Prop :=
  ∀ (α : Type) [RealExtension α] (f : Frame ℝ),
    f.Readable → formula (f.lifted : Frame α) = (formula f).map Path.lifted

/-- The same for a drawing that reads no guides. -/
abbrev DrawsNumbers (draw : {β : Type} → [Scalar β] → Frame β → Path β) : Prop :=
  ∀ (α : Type) [RealExtension α] (f : Frame ℝ), draw (f.lifted : Frame α) = (draw f).lifted

namespace GivesNumbers

variable {formula : {β : Type} → [Scalar β] → Frame β → Guided (Path β)}

theorem transposed (h : GivesNumbers formula) :
    GivesNumbers fun f => (formula f.transposed).map Path.transposed := by
  intro α _ f hf
  have hlifted : formula (f.transposed.lifted : Frame α)
      = (formula f.transposed).map Path.lifted := h α f.transposed hf
  dsimp only
  rw [Frame.transposed_lifted, hlifted]
  cases formula f.transposed with
  | error e => rfl
  | ok p => exact congrArg Except.ok p.transposed_lifted

theorem flipped (h : GivesNumbers formula) (horizontally vertically : Bool) :
    GivesNumbers fun f => (formula f).map (Path.flipped f.w f.h horizontally vertically) := by
  intro α _ f hf
  have hlifted : formula (f.lifted : Frame α) = (formula f).map Path.lifted := h α f hf
  dsimp only
  rw [hlifted]
  cases formula f with
  | error e => rfl
  | ok p => exact congrArg Except.ok (p.flipped_lifted f.w f.h horizontally vertically)

end GivesNumbers

end ShapeOutline
