import Mathlib
import ShapeOutline.Shape
import ShapeOutline.Proofs.Preset.Table

/-!
# Outlines of shapes

Every shape has an outline: a kind draws its sketch, a custom outline draws what the document spells
out, and an unknown tag draws nothing. In the outline of a compiled shape the pen never jumps.

* `ShapeSpec.exists_outline`: compiling never fails for want of a guide;
* `customOutline_penContinuous`, `ShapeSpec.outline_penContinuous`: outlines before they are flipped;
* `ShapeSpec.build_penContinuous`: the outlines of compiled shapes.
-/

namespace ShapeOutline

namespace ShapeSpec

variable {α : Type} [Scalar α]

/-- Every shape has an outline. -/
theorem exists_outline (s : ShapeSpec α) : ∃ p, s.outline = .ok p := by
  unfold outline
  cases s.geometry with
  | custom paths => exact ⟨_, rfl⟩
  | preset tag =>
    dsimp only
    cases Kind.ofTag? tag with
    | none => exact ⟨_, rfl⟩
    | some kind =>
      obtain ⟨p, hp, -⟩ := kind.outline_resolve_drawable s.box.w s.box.h s.guides s.scale
      exact ⟨p, hp⟩

/-- The path of a compiled shape is its outline, flipped. -/
theorem build_path {s : ShapeSpec α} {p : Path α} (hp : s.outline = .ok p) (styles : StyleTable) :
    ∃ shape styles', s.build styles = .ok (shape, styles') ∧
      shape.path = p.flipped s.box.w s.box.h s.flipH s.flipV := by
  rw [build, hp]
  exact ⟨_, _, rfl, rfl⟩

end ShapeSpec

/-! ## The pen never jumps -/

/-- What the pen is told for a segment it draws itself. -/
theorem Segment.isDirect_instruction {α : Type} [Scalar α] (g : Segment α) :
    g.instruction.isDirect = true := by
  cases g <;> rfl

theorem CustomPath.outline_penContinuous (p : CustomPath ℝ) (box : Extent ℝ) :
    (p.outline box).PenContinuous := by
  refine Pen.draw_penContinuous rfl rfl fun i hi => ?_
  obtain ⟨e, -, rfl⟩ := List.mem_map.mp hi
  exact e.segment.isDirect_instruction

theorem customOutline_penContinuous (paths : List (CustomPath ℝ)) (box : Extent ℝ) :
    (customOutline paths box).PenContinuous := by
  induction paths with
  | nil => exact Path.penContinuous_empty
  | cons p paths ih => exact (p.outline_penContinuous box).append ih

namespace ShapeSpec

theorem outline_penContinuous {s : ShapeSpec ℝ} {p : Path ℝ} (hp : s.outline = .ok p) :
    p.PenContinuous := by
  unfold outline at hp
  cases hgeometry : s.geometry with
  | custom paths =>
    rw [hgeometry] at hp
    cases hp
    exact customOutline_penContinuous paths s.box
  | preset tag =>
    rw [hgeometry] at hp
    dsimp only at hp
    cases hkind : Kind.ofTag? tag with
    | none =>
      rw [hkind] at hp
      cases hp
      exact Path.penContinuous_empty
    | some kind =>
      rw [hkind] at hp
      obtain ⟨q, hq, hdraw⟩ := kind.outline_resolve_drawable s.box.w s.box.h s.guides s.scale
      obtain rfl : q = p := Except.ok.inj (hq.symm.trans hp)
      rcases hdraw with rfl | hdraw
      · exact Path.penContinuous_empty
      · exact hdraw.penContinuous

/-- Every shape compiles, and the pen never jumps in the path of what it compiles to: the path is
empty or begins with a move, and each arc begins where the commands before it end. -/
theorem build_penContinuous (s : ShapeSpec ℝ) (styles : StyleTable) :
    ∃ shape styles', s.build styles = .ok (shape, styles') ∧ shape.path.PenContinuous := by
  obtain ⟨p, hp⟩ := s.exists_outline
  obtain ⟨shape, styles', hbuild, hpath⟩ := build_path hp styles
  refine ⟨shape, styles', hbuild, ?_⟩
  rw [hpath]
  exact (outline_penContinuous hp).flipped _ _ _ _

end ShapeSpec

end ShapeOutline
