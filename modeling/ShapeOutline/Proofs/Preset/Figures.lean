import Mathlib
import ShapeOutline.Proofs.Preset.Outlines
import ShapeOutline.Preset.Polygon
import ShapeOutline.Preset.Round
import ShapeOutline.Preset.Border
import ShapeOutline.Preset.Pictorial
import ShapeOutline.Preset.Rectangle
import ShapeOutline.Preset.Star

/-!
# What the basic figures draw

The formulas of polygons, ellipses and their parts, frames, pictures, rectangles with changed
corners, and stars: the guides that each of them reads, and the sketch of what it draws.
-/

namespace ShapeOutline.Preset

open Guided (ok_bind)
open Sketch (figures)

variable {α : Type} [Scalar α]

/-! ## Polygons -/

namespace Polygon

@[simp] theorem rect_drawable (f : Frame α) : (rect f).Drawable (figures 1 0) := .drawn rfl

@[simp] theorem triangle_outlines : Outlines ["adj"] (figures 1 0) (triangle (α := α)) := by
  intro f h
  simp (disch := decide) only [triangle, Frame.adj_eq h, ok_bind]
  exact ⟨_, rfl, .drawn rfl⟩

@[simp] theorem rightTriangle_drawable (f : Frame α) : (rightTriangle f).Drawable (figures 1 0) :=
  .drawn rfl

@[simp] theorem diamond_drawable (f : Frame α) : (diamond f).Drawable (figures 1 0) := .drawn rfl

@[simp] theorem parallelogram_outlines :
    Outlines ["adj"] (figures 1 0) (parallelogram (α := α)) := by
  intro f h
  simp (disch := decide) only [parallelogram, Frame.shortShare_eq h, ok_bind]
  exact ⟨_, rfl, .drawn rfl⟩

@[simp] theorem trapezoid_outlines : Outlines ["adj"] (figures 1 0) (trapezoid (α := α)) := by
  intro f h
  simp (disch := decide) only [trapezoid, Frame.shortShare_eq h, ok_bind]
  exact ⟨_, rfl, .drawn rfl⟩

@[simp] theorem nonIsoscelesTrapezoid_outlines :
    Outlines ["adj1", "adj2"] (figures 1 0) (nonIsoscelesTrapezoid (α := α)) := by
  intro f h
  simp (disch := decide) only [nonIsoscelesTrapezoid, Frame.shortShare_eq h, ok_bind]
  exact ⟨_, rfl, .drawn rfl⟩

@[simp] theorem pentagon_outlines : Outlines ["hf", "vf"] (figures 1 0) (pentagon (α := α)) := by
  intro f h
  simp (disch := decide) only [pentagon, Frame.adj_eq h, ok_bind]
  exact ⟨_, rfl, .drawn rfl⟩

@[simp] theorem hexagon_outlines : Outlines ["adj", "vf"] (figures 1 0) (hexagon (α := α)) := by
  intro f h
  simp (disch := decide) only [hexagon, Frame.adj_eq h, Frame.shortShare_eq h, ok_bind]
  exact ⟨_, rfl, .drawn rfl⟩

@[simp] theorem heptagon_outlines : Outlines ["hf", "vf"] (figures 1 0) (heptagon (α := α)) := by
  intro f h
  simp (disch := decide) only [heptagon, Frame.adj_eq h, ok_bind]
  exact ⟨_, rfl, .drawn rfl⟩

@[simp] theorem octagon_outlines : Outlines ["adj"] (figures 1 0) (octagon (α := α)) := by
  intro f h
  simp (disch := decide) only [octagon, Frame.shortShare_eq h, ok_bind]
  exact ⟨_, rfl, .drawn rfl⟩

@[simp] theorem decagon_outlines : Outlines ["vf"] (figures 1 0) (decagon (α := α)) := by
  intro f h
  simp (disch := decide) only [decagon, Frame.adj_eq h, ok_bind]
  exact ⟨_, rfl, .drawn rfl⟩

@[simp] theorem dodecagon_drawable (f : Frame α) : (dodecagon f).Drawable (figures 1 0) :=
  .drawnIn rfl

@[simp] theorem cross_outlines : Outlines ["adj"] (figures 1 0) (cross (α := α)) := by
  intro f h
  simp (disch := decide) only [cross, Frame.shortShare_eq h, ok_bind]
  exact ⟨_, rfl, .drawn rfl⟩

@[simp] theorem homePlate_outlines : Outlines ["adj"] (figures 1 0) (homePlate (α := α)) := by
  intro f h
  simp (disch := decide) only [homePlate, Frame.shortShare_eq h, ok_bind]
  exact ⟨_, rfl, .drawn rfl⟩

@[simp] theorem chevron_outlines : Outlines ["adj"] (figures 1 0) (chevron (α := α)) := by
  intro f h
  simp (disch := decide) only [chevron, Frame.shortShare_eq h, ok_bind]
  exact ⟨_, rfl, .drawn rfl⟩

end Polygon

/-! ## Ellipses and their parts -/

namespace Round

@[simp] theorem ellipse_drawable (f : Frame α) : (ellipse f).Drawable (figures 1 0) := .drawn rfl

@[simp] theorem teardrop_outlines : Outlines ["adj"] (figures 1 0) (teardrop (α := α)) := by
  intro f h
  simp (disch := decide) only [teardrop, Frame.adj_eq h, ok_bind]
  exact ⟨_, rfl, .drawn rfl⟩

@[simp] theorem pieWedge_drawable (f : Frame α) : (pieWedge f).Drawable (figures 1 0) := .drawn rfl

@[simp] theorem pie_outlines : Outlines ["adj1", "adj2"] (figures 1 0) (pie (α := α)) := by
  intro f h
  simp (disch := decide) only [pie, anglePair, Frame.angle_eq h, ok_bind]
  exact ⟨_, rfl, .drawn rfl⟩

@[simp] theorem chord_outlines : Outlines ["adj1", "adj2"] (figures 1 0) (chord (α := α)) := by
  intro f h
  simp (disch := decide) only [chord, anglePair, Frame.angle_eq h, ok_bind]
  exact ⟨_, rfl, .drawn rfl⟩

@[simp] theorem arc_outlines : Outlines ["adj1", "adj2"] (figures 0 1) (arc (α := α)) := by
  intro f h
  simp (disch := decide) only [arc, anglePair, Frame.angle_eq h, ok_bind]
  exact ⟨_, rfl, .drawn rfl⟩

@[simp] theorem blockArc_outlines :
    Outlines ["adj1", "adj2", "adj3"] (figures 1 0) (blockArc (α := α)) := by
  intro f h
  simp (disch := decide) only [blockArc, anglePair, Frame.angle_eq h, Frame.shortShare_eq h,
    ok_bind]
  exact ⟨_, rfl, .drawn rfl⟩

@[simp] theorem donut_outlines : Outlines ["adj"] (figures 2 0) (donut (α := α)) := by
  intro f h
  simp (disch := decide) only [donut, Frame.shortShare_eq h, ok_bind]
  exact ⟨_, rfl, .drawn rfl⟩

@[simp] theorem noSmoking_outlines : Outlines ["adj"] (figures 3 0) (noSmoking (α := α)) := by
  intro f h
  simp (disch := decide) only [noSmoking, Frame.shortShare_eq h, ok_bind]
  exact ⟨_, rfl, .drawn rfl⟩

@[simp] theorem moon_outlines : Outlines ["adj"] (figures 1 0) (moon (α := α)) := by
  intro f h
  simp (disch := decide) only [moon, Frame.adj_eq h, ok_bind]
  exact ⟨_, rfl, .drawn rfl⟩

end Round

/-! ## Frames -/

namespace Border

@[simp] theorem frame_outlines : Outlines ["adj1"] (figures 2 0) (frame (α := α)) := by
  intro f h
  simp (disch := decide) only [frame, Frame.shortShare_eq h, ok_bind]
  exact ⟨_, rfl, .drawn rfl⟩

@[simp] theorem halfFrame_outlines :
    Outlines ["adj1", "adj2"] (figures 1 0) (halfFrame (α := α)) := by
  intro f h
  simp (disch := decide) only [halfFrame, Frame.shortShare_eq h, ok_bind]
  exact ⟨_, rfl, .drawn rfl⟩

@[simp] theorem corner_outlines : Outlines ["adj1", "adj2"] (figures 1 0) (corner (α := α)) := by
  intro f h
  simp (disch := decide) only [corner, Frame.shortShare_eq h, ok_bind]
  exact ⟨_, rfl, .drawn rfl⟩

@[simp] theorem diagonalStripe_outlines :
    Outlines ["adj"] (figures 1 0) (diagonalStripe (α := α)) := by
  intro f h
  simp (disch := decide) only [diagonalStripe, Frame.adj_eq h, ok_bind]
  exact ⟨_, rfl, .drawn rfl⟩

@[simp] theorem bevel_outlines : Outlines ["adj"] (figures 2 4) (bevel (α := α)) := by
  intro f h
  simp (disch := decide) only [bevel, Frame.shortShare_eq h, ok_bind]
  exact ⟨_, rfl, .drawn rfl⟩

@[simp] theorem foldedCorner_outlines : Outlines ["adj"] (figures 2 0) (foldedCorner (α := α)) := by
  intro f h
  simp (disch := decide) only [foldedCorner, Frame.shortShare_eq h, ok_bind]
  exact ⟨_, rfl, .drawn rfl⟩

end Border

/-! ## Pictures -/

namespace Pictorial

@[simp] theorem can_outlines : Outlines ["adj"] (figures 2 0) (can (α := α)) := by
  intro f h
  simp (disch := decide) only [can, Frame.adj_eq h, ok_bind]
  exact ⟨_, rfl, .drawn rfl⟩

@[simp] theorem cube_outlines : Outlines ["adj"] (figures 3 0) (cube (α := α)) := by
  intro f h
  simp (disch := decide) only [cube, Frame.shortShare_eq h, ok_bind]
  exact ⟨_, rfl, .drawn rfl⟩

@[simp] theorem smileyFace_outlines : Outlines ["adj"] (figures 3 1) (smileyFace (α := α)) := by
  intro f h
  simp (disch := decide) only [smileyFace, Frame.adj_eq h, ok_bind]
  exact ⟨_, rfl, .drawn rfl⟩

@[simp] theorem heart_drawable (f : Frame α) : (heart f).Drawable (figures 1 0) := .drawn rfl

@[simp] theorem lightningBolt_drawable (f : Frame α) : (lightningBolt f).Drawable (figures 1 0) :=
  .drawnIn rfl

/-- Eight rays and a disc. -/
@[simp] theorem sun_outlines : Outlines ["adj"] (figures 9 0) (sun (α := α)) := by
  intro f h
  simp (disch := decide) only [sun, Frame.adj_eq h, ok_bind]
  exact ⟨_, rfl, .drawn rfl⟩

end Pictorial

/-! ## Rectangles -/

namespace Rectangle

/-- A corner turns at once or with one instruction that draws. -/
theorem Corner.turn_cases (c : Corner α) (start x y : α) :
    c.turn start x y = [] ∨ ∃ i, c.turn start x y = [i] ∧ i.gesture? = some .draw := by
  unfold turn
  cases c with
  | square => exact .inl rfl
  | round d =>
    dsimp only
    split
    · exact .inr ⟨_, rfl, rfl⟩
    · exact .inl rfl
  | snip d =>
    dsimp only
    split
    · exact .inr ⟨_, rfl, rfl⟩
    · exact .inl rfl

/-- How a corner turns does not show between a line in front and whatever comes behind it. -/
theorem sketchBefore?_line_turn (c : Corner α) (start x y u v : α) (is : List (Instruction α))
    (rest : Sketch) :
    Instruction.sketchBefore? (.lineTo u v :: (c.turn start x y ++ is)) rest
      = Instruction.sketchBefore? (.lineTo u v :: is) rest := by
  rcases c.turn_cases start x y with hturn | ⟨i, hturn, hi⟩
  · rw [hturn, List.nil_append]
  · rw [hturn, List.singleton_append]
    exact (Instruction.sketchBefore?_draw_draw rfl hi is rest).2

/-- How a corner turns does not show in front of a line. -/
theorem sketchBefore?_turn_line (c : Corner α) (start x y u v : α) (is : List (Instruction α))
    (rest : Sketch) :
    Instruction.sketchBefore? (c.turn start x y ++ .lineTo u v :: is) rest
      = Instruction.sketchBefore? (.lineTo u v :: is) rest := by
  rcases c.turn_cases start x y with hturn | ⟨i, hturn, hi⟩
  · rw [hturn, List.nil_append]
  · rw [hturn, List.singleton_append]
    exact (Instruction.sketchBefore?_draw_draw hi rfl is rest).1

/-- A rectangle is one closed subpath, however its corners turn. -/
theorem cornered_drawable (w h : α) (c : Corners α) : (cornered w h c).Drawable (figures 1 0) := by
  refine .drawn ?_
  -- four sides, with a turn in front of the first and behind each of the others
  simp only [List.append_assoc, List.cons_append]
  rw [Instruction.sketch?, Instruction.sketchBefore?, sketchBefore?_turn_line,
    sketchBefore?_line_turn, Instruction.sketchBefore?, sketchBefore?_line_turn,
    Instruction.sketchBefore?, sketchBefore?_line_turn]
  rfl

@[simp] theorem roundAll_outlines : Outlines ["adj"] (figures 1 0) (roundAll (α := α)) := by
  intro f h
  simp (disch := decide) only [roundAll, Frame.shortShare_eq h, ok_bind]
  exact ⟨_, rfl, cornered_drawable _ _ _⟩

@[simp] theorem roundOne_outlines : Outlines ["adj"] (figures 1 0) (roundOne (α := α)) := by
  intro f h
  simp (disch := decide) only [roundOne, Frame.shortShare_eq h, ok_bind]
  exact ⟨_, rfl, cornered_drawable _ _ _⟩

@[simp] theorem roundSameSide_outlines :
    Outlines ["adj1", "adj2"] (figures 1 0) (roundSameSide (α := α)) := by
  intro f h
  simp (disch := decide) only [roundSameSide, Frame.shortShare_eq h, ok_bind]
  exact ⟨_, rfl, cornered_drawable _ _ _⟩

@[simp] theorem roundDiagonal_outlines :
    Outlines ["adj1", "adj2"] (figures 1 0) (roundDiagonal (α := α)) := by
  intro f h
  simp (disch := decide) only [roundDiagonal, Frame.shortShare_eq h, ok_bind]
  exact ⟨_, rfl, cornered_drawable _ _ _⟩

@[simp] theorem snipAndRound_outlines :
    Outlines ["adj1", "adj2"] (figures 1 0) (snipAndRound (α := α)) := by
  intro f h
  simp (disch := decide) only [snipAndRound, Frame.shortShare_eq h, ok_bind]
  exact ⟨_, rfl, cornered_drawable _ _ _⟩

@[simp] theorem snipOne_outlines : Outlines ["adj"] (figures 1 0) (snipOne (α := α)) := by
  intro f h
  simp (disch := decide) only [snipOne, Frame.shortShare_eq h, ok_bind]
  exact ⟨_, rfl, cornered_drawable _ _ _⟩

@[simp] theorem snipSameSide_outlines :
    Outlines ["adj1", "adj2"] (figures 1 0) (snipSameSide (α := α)) := by
  intro f h
  simp (disch := decide) only [snipSameSide, Frame.shortShare_eq h, ok_bind]
  exact ⟨_, rfl, cornered_drawable _ _ _⟩

@[simp] theorem snipDiagonal_outlines :
    Outlines ["adj1", "adj2"] (figures 1 0) (snipDiagonal (α := α)) := by
  intro f h
  simp (disch := decide) only [snipDiagonal, Frame.shortShare_eq h, ok_bind]
  exact ⟨_, rfl, cornered_drawable _ _ _⟩

@[simp] theorem plaque_outlines : Outlines ["adj"] (figures 1 0) (plaque (α := α)) := by
  intro f h
  simp (disch := decide) only [plaque, Frame.shortShare_eq h, ok_bind]
  exact ⟨_, rfl, .drawn rfl⟩

end Rectangle

/-! ## Stars -/

namespace Star

/-- A star with points is a closed subpath. -/
theorem outline_drawable {s : Star α} (h : s.points ≠ 0) : s.outline.Drawable (figures 1 0) := by
  refine .drawn ?_
  obtain ⟨n, hn⟩ := Nat.exists_eq_succ_of_ne_zero h
  rw [hn, List.range_succ_eq_map, List.flatMap_cons]
  exact Instruction.sketchBefore?_polygon _ _ _ []

@[simp] theorem even_outlines {points : ℕ} (hpoints : points ≠ 0) :
    Outlines ["adj"] (figures 1 0) (even (α := α) points) := by
  intro f h
  simp (disch := decide) only [even, centered, Frame.adj_eq h, ok_bind, pure_bind]
  exact ⟨_, rfl, outline_drawable hpoints⟩

@[simp] theorem star5_outlines : Outlines ["adj", "hf", "vf"] (figures 1 0) (star5 (α := α)) := by
  intro f h
  simp (disch := decide) only [star5, centered, widened, heightened, Frame.adj_eq h, ok_bind,
    pure_bind]
  exact ⟨_, rfl, outline_drawable (Nat.succ_ne_zero _)⟩

@[simp] theorem star6_outlines : Outlines ["adj", "hf"] (figures 1 0) (star6 (α := α)) := by
  intro f h
  simp (disch := decide) only [star6, centered, widened, Frame.adj_eq h, ok_bind, pure_bind]
  exact ⟨_, rfl, outline_drawable (Nat.succ_ne_zero _)⟩

@[simp] theorem star7_outlines : Outlines ["adj", "hf", "vf"] (figures 1 0) (star7 (α := α)) := by
  intro f h
  simp (disch := decide) only [star7, centered, widened, heightened, Frame.adj_eq h, ok_bind,
    pure_bind]
  exact ⟨_, rfl, outline_drawable (Nat.succ_ne_zero _)⟩

@[simp] theorem star10_outlines : Outlines ["adj", "hf"] (figures 1 0) (star10 (α := α)) := by
  intro f h
  simp (disch := decide) only [star10, centered, widened, Frame.adj_eq h, ok_bind, pure_bind]
  exact ⟨_, rfl, outline_drawable (Nat.succ_ne_zero _)⟩

@[simp] theorem irregularSeal1_drawable (f : Frame α) : (irregularSeal1 f).Drawable (figures 1 0) :=
  .drawnIn rfl

@[simp] theorem irregularSeal2_drawable (f : Frame α) : (irregularSeal2 f).Drawable (figures 1 0) :=
  .drawnIn rfl

end Star

end ShapeOutline.Preset
