import Mathlib
import ShapeOutline.Proofs.Scale.Formula
import ShapeOutline.Preset.Polygon
import ShapeOutline.Preset.Round
import ShapeOutline.Preset.Border
import ShapeOutline.Preset.Pictorial
import ShapeOutline.Preset.Rectangle
import ShapeOutline.Preset.Star

/-!
# The basic figures at another size

The formulas of polygons, frames, pictures, rectangles with changed corners, ellipses and their parts,
and stars are homogeneous. Sectors and rings see points of an ellipse in directions of any angle.
-/

namespace ShapeOutline.Preset

open Exact
open Scalar (pin)

variable (r : Ratio)

/-! ## Polygons -/

namespace Polygon

@[simp] theorem rect_grows : Grows rect := by
  intro r f
  simp [rect]

@[simp] theorem triangle_homogeneous : Homogeneous false triangle := by
  intro r f _
  simp [triangle]

@[simp] theorem rightTriangle_grows : Grows rightTriangle := by
  intro r f
  simp [rightTriangle]

@[simp] theorem diamond_grows : Grows diamond := by
  intro r f
  simp [diamond]

@[simp] theorem parallelogram_homogeneous : Homogeneous false parallelogram := by
  intro r f _
  simp [parallelogram]

@[simp] theorem trapezoid_homogeneous : Homogeneous false trapezoid := by
  intro r f _
  simp [trapezoid]

@[simp] theorem nonIsoscelesTrapezoid_homogeneous : Homogeneous false nonIsoscelesTrapezoid := by
  intro r f _
  simp [nonIsoscelesTrapezoid]

@[simp] theorem pentagon_homogeneous : Homogeneous false pentagon := by
  intro r f _
  simp [pentagon]

@[simp] theorem hexagon_homogeneous : Homogeneous false hexagon := by
  intro r f _
  simp [hexagon]

@[simp] theorem heptagon_homogeneous : Homogeneous false heptagon := by
  intro r f _
  simp [heptagon]

@[simp] theorem octagon_homogeneous : Homogeneous false octagon := by
  intro r f _
  simp [octagon]

@[simp] theorem decagon_homogeneous : Homogeneous false decagon := by
  intro r f _
  simp [decagon]

@[simp] theorem dodecagon_grows : Grows dodecagon :=
  fun r f => Path.drawnIn_grown r f.w f.h 21600 21600 rfl

@[simp] theorem cross_homogeneous : Homogeneous false cross := by
  intro r f _
  simp [cross]

@[simp] theorem homePlate_homogeneous : Homogeneous false homePlate := by
  intro r f _
  simp [homePlate]

@[simp] theorem chevron_homogeneous : Homogeneous false chevron := by
  intro r f _
  simp [chevron]

end Polygon

/-! ## Borders -/

namespace Border

@[simp] theorem frame_homogeneous : Homogeneous false frame := by
  intro r f _
  simp [frame]

@[simp] theorem halfFrame_homogeneous : Homogeneous false halfFrame := by
  intro r f _
  simp [halfFrame]

@[simp] theorem corner_homogeneous : Homogeneous false corner := by
  intro r f _
  simp [corner]

@[simp] theorem diagonalStripe_homogeneous : Homogeneous false diagonalStripe := by
  intro r f _
  simp [diagonalStripe]

@[simp] theorem bevel_homogeneous : Homogeneous false bevel := by
  intro r f _
  simp [bevel]

@[simp] theorem foldedCorner_homogeneous : Homogeneous false foldedCorner := by
  intro r f _
  simp [foldedCorner]

end Border

/-! ## Pictures -/

namespace Pictorial

@[simp] theorem can_homogeneous : Homogeneous false can := by
  intro r f _
  simp [can]

@[simp] theorem cube_homogeneous : Homogeneous false cube := by
  intro r f _
  simp [cube]

@[simp] theorem smileyFace_homogeneous : Homogeneous false smileyFace := by
  intro r f _
  simp [smileyFace]

@[simp] theorem heart_grows : Grows heart := by
  intro r f
  simp [heart]

@[simp] theorem lightningBolt_grows : Grows lightningBolt :=
  fun r f => Path.drawnIn_grown r f.w f.h 21600 21600 rfl

@[simp] theorem sun_homogeneous : Homogeneous false sun := by
  intro r f _
  simp [sun]

end Pictorial

/-! ## Rectangles with changed corners -/

namespace Rectangle

/-- The corner of a larger rectangle. -/
def Corner.grown : Corner ℝ → Corner ℝ
  | square => square
  | round d => round (ShapeOutline.grown r d)
  | snip d => snip (ShapeOutline.grown r d)

namespace Corner

variable (c : Corner ℝ) (d start x y : ℝ)

@[simp] theorem grown_square : (square : Corner ℝ).grown r = square := rfl

@[simp] theorem grown_round : (round d).grown r = round (ShapeOutline.grown r d) := rfl

@[simp] theorem grown_snip : (snip d).grown r = snip (ShapeOutline.grown r d) := rfl

@[simp] theorem size_grown : (c.grown r).size = ShapeOutline.grown r c.size := by
  cases c <;> simp [size]

/-- A corner that takes something at one size takes something at every size. -/
@[simp] theorem map_grown_turn :
    (c.turn start x y).map (Instruction.grown r)
      = (c.grown r).turn start (ShapeOutline.grown r x) (ShapeOutline.grown r y) := by
  cases c with
  | square => rfl
  | round d =>
    simp only [grown_round, turn, grown_pos]
    split <;> rfl
  | snip d =>
    simp only [grown_snip, turn, grown_pos]
    split <;> rfl

@[simp] theorem steady_turn : Instruction.Steady r (c.turn start x y) := by
  cases c with
  | square => exact Instruction.steady_nil r
  | round d =>
    simp only [turn]
    split <;> simp
  | snip d =>
    simp only [turn]
    split <;> simp

end Corner

/-- The corners of a larger rectangle. -/
def Corners.grown (c : Corners ℝ) : Corners ℝ :=
  ⟨c.topLeft.grown r, c.topRight.grown r, c.bottomRight.grown r, c.bottomLeft.grown r⟩

@[simp] theorem Corners.grown_mk (topLeft topRight bottomRight bottomLeft : Corner ℝ) :
    (⟨topLeft, topRight, bottomRight, bottomLeft⟩ : Corners ℝ).grown r
      = ⟨topLeft.grown r, topRight.grown r, bottomRight.grown r, bottomLeft.grown r⟩ := rfl

@[simp] theorem Corners.grown_all (c : Corner ℝ) : (all c).grown r = all (c.grown r) := rfl

@[simp] theorem cornered_grown (w h : ℝ) (c : Corners ℝ) :
    (cornered w h c).grown r
      = cornered (ShapeOutline.grown r w) (ShapeOutline.grown r h) (c.grown r) := by
  simp [cornered, Corners.grown]

@[simp] theorem roundAll_homogeneous : Homogeneous false roundAll := by
  intro r f _
  simp [roundAll]

@[simp] theorem roundOne_homogeneous : Homogeneous false roundOne := by
  intro r f _
  simp [roundOne]

@[simp] theorem roundSameSide_homogeneous : Homogeneous false roundSameSide := by
  intro r f _
  simp [roundSameSide]

@[simp] theorem roundDiagonal_homogeneous : Homogeneous false roundDiagonal := by
  intro r f _
  simp [roundDiagonal]

@[simp] theorem snipAndRound_homogeneous : Homogeneous false snipAndRound := by
  intro r f _
  simp [snipAndRound]

@[simp] theorem snipOne_homogeneous : Homogeneous false snipOne := by
  intro r f _
  simp [snipOne]

@[simp] theorem snipSameSide_homogeneous : Homogeneous false snipSameSide := by
  intro r f _
  simp [snipSameSide]

@[simp] theorem snipDiagonal_homogeneous : Homogeneous false snipDiagonal := by
  intro r f _
  simp [snipDiagonal]

@[simp] theorem plaque_homogeneous : Homogeneous false plaque := by
  intro r f _
  simp [plaque]

end Rectangle

/-! ## Ellipses and their parts -/

namespace Round

@[simp] theorem pointSeen_grown (cx cy : ℝ) {rx ry : ℝ} (h : SameRoundness r rx ry) (deg : ℝ) :
    pointSeen (grown r cx) (grown r cy) (grown r rx) (grown r ry) deg
      = (pointSeen cx cy rx ry deg).grown r := by
  unfold pointSeen
  rw [parametricAngle_grown r h]
  exact ellipsePoint_grown r ⟨cx, cy⟩ rx ry _

@[simp] theorem anglePair_grown (f : Frame ℝ) (first second : String) :
    anglePair (f.grown r) first second = anglePair f first second := rfl

@[simp] theorem ellipse_grows : Grows ellipse := by
  intro r f
  simp [ellipse]

@[simp] theorem teardrop_homogeneous : Homogeneous false teardrop := by
  intro r f _
  simp [teardrop]

@[simp] theorem pieWedge_grows : Grows pieWedge := by
  intro r f
  simp [pieWedge]

@[simp] theorem pie_homogeneous : Homogeneous true pie := by
  intro r f h
  simp [pie, h rfl]

@[simp] theorem chord_homogeneous : Homogeneous true chord := by
  intro r f h
  simp [chord, h rfl]

@[simp] theorem arc_homogeneous : Homogeneous true arc := by
  intro r f h
  simp [arc, h rfl]

section

variable {α : Type} [Scalar α]

/-- The thickness of a ring, which a guide gives. -/
def thickness (f : Frame α) (a : α) : α := f.ofShort (pin 0 a 50000)

theorem shortShare_eq_thickness (f : Frame α) (name : String) :
    f.shortShare name 50000 = (f.adj name).map (thickness f) := rfl

end

@[simp] theorem thickness_grown (f : Frame ℝ) (a : ℝ) :
    thickness (f.grown r) a = grown r (thickness f a) :=
  Frame.ofShort_grown r f _

/-- A ring is at most as thick as half the short side of its box. -/
theorem exists_thickness_eq (f : Frame ℝ) (a : ℝ) :
    ∃ share : ℝ, 0 ≤ share ∧ share ≤ 1 / 2 ∧ thickness f a = min f.w f.h * share := by
  obtain ⟨p, hp, hthickness⟩ : ∃ p ∈ Set.Icc ((0 : ℕ) : ℝ) (50000 : ℕ),
      thickness f a = min f.w f.h * p / (100000 : ℕ) :=
    ⟨_, pin_mem_Icc (Nat.cast_le.mpr (by decide)) a, rfl⟩
  push_cast at hp hthickness
  obtain ⟨hlow, hhigh⟩ := hp
  refine ⟨p / 100000, by positivity, by linarith, ?_⟩
  rw [hthickness, mul_div_assoc]

/-- The hole of a ring differs from a circle as much as the ring does. -/
theorem sameRoundness_hole {f : Frame ℝ} (h : SameRoundness r f.wd2 f.hd2) (a : ℝ) :
    SameRoundness r (f.wd2 - thickness f a) (f.hd2 - thickness f a) := by
  intro hw hh
  obtain ⟨share, hnonneg, hle, hthickness⟩ := exists_thickness_eq f a
  have hwd2 : f.wd2 = f.w / (2 : ℕ) := rfl
  have hhd2 : f.hd2 = f.h / (2 : ℕ) := rfl
  push_cast at hwd2 hhd2
  -- a ring that has a hole lies in a box that is not turned inside out
  have hshort : 0 ≤ min f.w f.h := by
    by_contra! hneg
    have hthick : min f.w f.h / 2 ≤ thickness f a := by
      rw [hthickness]
      nlinarith
    rcases min_choice f.w f.h with hmin | hmin
    · rw [hmin] at hthick
      linarith
    · rw [hmin] at hthick
      linarith
  have hthick : 0 ≤ thickness f a := hthickness ▸ mul_nonneg hshort hnonneg
  have hring := h (by linarith) (by linarith)
  rw [grown_sub] at hring
  rwa [grown_sub, sub_sub_sub_cancel_right]

@[simp] theorem blockArc_homogeneous : Homogeneous true blockArc := by
  intro r f h
  have hhole := sameRoundness_hole r (h rfl)
  simp [blockArc, shortShare_eq_thickness, h rfl, hhole]

@[simp] theorem donut_homogeneous : Homogeneous false donut := by
  intro r f _
  simp [donut]

@[simp] theorem noSmoking_homogeneous : Homogeneous true noSmoking := by
  intro r f h
  have hhole := sameRoundness_hole r (h rfl)
  simp [noSmoking, shortShare_eq_thickness, hhole]

@[simp] theorem moon_homogeneous : Homogeneous false moon := by
  intro r f _
  simp [moon]

end Round

/-! ## Stars -/

namespace Star

variable (s : Star ℝ) (f : Frame ℝ)

/-- The star of a larger box. -/
def grown : Star ℝ :=
  { s with
    cx := ShapeOutline.grown r s.cx
    cy := ShapeOutline.grown r s.cy
    rx := ShapeOutline.grown r s.rx
    ry := ShapeOutline.grown r s.ry }

theorem corner_grown (i : ℕ) : (s.grown r).corner i = (s.corner i).map (grownPair r) := by
  simp [corner, point, angleStep, grown]

@[simp] theorem outline_grown : (s.grown r).outline = s.outline.grown r := by
  have hcorner : (s.grown r).corner = fun i => (s.corner i).map (grownPair r) :=
    funext (s.corner_grown r)
  have hpoints : (s.grown r).points = s.points := rfl
  rw [outline, outline, hcorner, hpoints, Path.polygon_grown, List.map_flatMap]

@[simp] theorem centered_grown (points : ℕ) (start : ℝ) :
    centered (f.grown r) points start = (centered f points start).map (Star.grown r) := by
  simp [centered, grown]

@[simp] theorem widened_grown :
    widened (f.grown r) (s.grown r) = (widened f s).map (Star.grown r) := by
  simp [widened, grown]

@[simp] theorem heightened_grown :
    heightened (f.grown r) (s.grown r) = (heightened f s).map (Star.grown r) := by
  simp [heightened, grown]

@[simp] theorem even_homogeneous (points : ℕ) : Homogeneous false (even points) := by
  intro r f _
  simp [even]

@[simp] theorem star5_homogeneous : Homogeneous false star5 := by
  intro r f _
  simp [star5]

@[simp] theorem star6_homogeneous : Homogeneous false star6 := by
  intro r f _
  simp [star6]

@[simp] theorem star7_homogeneous : Homogeneous false star7 := by
  intro r f _
  simp [star7]

@[simp] theorem star10_homogeneous : Homogeneous false star10 := by
  intro r f _
  simp [star10]

@[simp] theorem irregularSeal1_grows : Grows irregularSeal1 :=
  fun r f => Path.drawnIn_grown r f.w f.h 21600 21600 rfl

@[simp] theorem irregularSeal2_grows : Grows irregularSeal2 :=
  fun r f => Path.drawnIn_grown r f.w f.h 21600 21600 rfl

end Star

end ShapeOutline.Preset
