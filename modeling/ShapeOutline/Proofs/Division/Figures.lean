import Mathlib
import ShapeOutline.Proofs.Division.Formula
import ShapeOutline.Preset.Polygon
import ShapeOutline.Preset.Round
import ShapeOutline.Preset.Border
import ShapeOutline.Preset.Pictorial
import ShapeOutline.Preset.Rectangle
import ShapeOutline.Preset.Star
import ShapeOutline.Preset.Connector
import ShapeOutline.Preset.BlockArrow
import ShapeOutline.Preset.ArrowCallout

/-!
# Lines, figures and arrows with numbers that may be something else

The formulas of connectors, polygons, ellipses and their parts, borders, pictures, rectangles with changed
corners, stars and arrows give numbers. They divide by literals and by guarded lengths only, and stars by the
number of their points.

Formulas are compared with those of the real numbers step by step: with their helpers opened, `simp` carries
`lifted` from the frame to the outline, and both sides draw the same.
-/

namespace ShapeOutline.Preset

open RealExtension

variable {α : Type} [RealExtension α]

/-! ## Lines and connectors -/

namespace Connector

theorem givesNumbers :
    GivesNumbers bent3 ∧ GivesNumbers bent4 ∧ GivesNumbers bent5 ∧ GivesNumbers curved3 ∧
      GivesNumbers curved4 ∧ GivesNumbers curved5 := by
  simp +contextual [GivesNumbers, chain, bent3, bent4, bent5, curved3, curved4, curved5]

theorem drawsNumbers :
    DrawsNumbers line ∧ DrawsNumbers lineInverted ∧ DrawsNumbers bent2 ∧ DrawsNumbers curved2 := by
  simp [DrawsNumbers, chain, line, lineInverted, bent2, curved2]

end Connector

/-! ## Polygons -/

namespace Polygon

theorem givesNumbers :
    GivesNumbers triangle ∧ GivesNumbers parallelogram ∧ GivesNumbers trapezoid ∧
      GivesNumbers nonIsoscelesTrapezoid ∧ GivesNumbers pentagon ∧ GivesNumbers hexagon ∧
      GivesNumbers heptagon ∧ GivesNumbers octagon ∧ GivesNumbers decagon ∧ GivesNumbers cross ∧
      GivesNumbers homePlate ∧ GivesNumbers chevron := by
  simp +contextual [GivesNumbers, sinCos_eq, triangle, parallelogram, trapezoid,
    nonIsoscelesTrapezoid, pentagon, hexagon, heptagon, octagon, decagon, cross, homePlate, chevron]

@[simp] theorem rect_lifted (f : Frame ℝ) : rect (f.lifted : Frame α) = (rect f).lifted := by
  simp [rect]

theorem drawsNumbers :
    DrawsNumbers rect ∧ DrawsNumbers rightTriangle ∧ DrawsNumbers diamond ∧
      DrawsNumbers dodecagon := by
  simp (disch := decide) [DrawsNumbers, Path.lifted_drawnIn, rightTriangle, diamond, dodecagon]

end Polygon

/-! ## Ellipses and their parts -/

namespace Round

theorem givesNumbers :
    GivesNumbers teardrop ∧ GivesNumbers pie ∧ GivesNumbers chord ∧ GivesNumbers arc ∧
      GivesNumbers blockArc ∧ GivesNumbers donut ∧ GivesNumbers noSmoking ∧ GivesNumbers moon := by
  simp +contextual [GivesNumbers, sinCos_eq, anglePair, sweepBetween, pointSeen, teardrop, pie, chord,
    arc, blockArc, donut, noSmoking, moon]

@[simp] theorem ellipse_lifted (f : Frame ℝ) : ellipse (f.lifted : Frame α) = (ellipse f).lifted := by
  simp [ellipse]

theorem drawsNumbers : DrawsNumbers ellipse ∧ DrawsNumbers pieWedge := by
  simp [DrawsNumbers, pieWedge]

end Round

/-! ## Borders and pictures -/

theorem Border.givesNumbers :
    GivesNumbers Border.frame ∧ GivesNumbers Border.halfFrame ∧ GivesNumbers Border.corner ∧
      GivesNumbers Border.diagonalStripe ∧ GivesNumbers Border.bevel ∧
      GivesNumbers Border.foldedCorner := by
  simp +contextual [GivesNumbers, Border.frame, Border.halfFrame, Border.corner,
    Border.diagonalStripe, Border.bevel, Border.foldedCorner]

namespace Pictorial

theorem givesNumbers :
    GivesNumbers can ∧ GivesNumbers cube ∧ GivesNumbers smileyFace ∧ GivesNumbers sun := by
  simp +contextual [GivesNumbers, can, cube, smileyFace, sun]

theorem drawsNumbers : DrawsNumbers heart ∧ DrawsNumbers lightningBolt := by
  simp (disch := decide) [DrawsNumbers, Path.lifted_drawnIn, heart, lightningBolt]

end Pictorial

/-! ## Rectangles with changed corners -/

namespace Rectangle

/-- A corner of numbers. -/
def Corner.lifted : Corner ℝ → Corner α
  | square => square
  | round d => round (RealExtension.lifted d)
  | snip d => snip (RealExtension.lifted d)

namespace Corner

variable (c : Corner ℝ) (d start x y : ℝ)

@[simp] theorem lifted_square : (lifted square : Corner α) = square := rfl

@[simp] theorem lifted_round : (lifted (round d) : Corner α) = round (RealExtension.lifted d) := rfl

@[simp] theorem lifted_snip : (lifted (snip d) : Corner α) = snip (RealExtension.lifted d) := rfl

theorem size_lifted : (c.lifted : Corner α).size = RealExtension.lifted c.size := by
  cases c <;> simp [size]

/-- A corner that takes something takes it among the other scalars too. -/
theorem turn_lifted :
    (c.lifted : Corner α).turn (RealExtension.lifted start) (RealExtension.lifted x)
        (RealExtension.lifted y)
      = (c.turn start x y).map Instruction.lifted := by
  cases c with
  | square => rfl
  | round d =>
    simp only [turn, lifted, literal_lifted, lifted_lt]
    split <;> simp
  | snip d =>
    simp only [turn, lifted, literal_lifted, lifted_lt]
    split <;> rfl

end Corner

/-- The corners of a rectangle of numbers. -/
@[simp] def Corners.lifted (c : Corners ℝ) : Corners α :=
  ⟨c.topLeft.lifted, c.topRight.lifted, c.bottomRight.lifted, c.bottomLeft.lifted⟩

@[simp] theorem lifted_cornered (w h : ℝ) (c : Corners ℝ) :
    ((cornered w h c).lifted : Path α)
      = cornered (RealExtension.lifted w) (RealExtension.lifted h) c.lifted := by
  simp [cornered, Corner.size_lifted, Corner.turn_lifted]

theorem givesNumbers :
    GivesNumbers roundAll ∧ GivesNumbers roundOne ∧ GivesNumbers roundSameSide ∧
      GivesNumbers roundDiagonal ∧ GivesNumbers snipAndRound ∧ GivesNumbers snipOne ∧
      GivesNumbers snipSameSide ∧ GivesNumbers snipDiagonal ∧ GivesNumbers plaque := by
  simp +contextual [GivesNumbers, Corners.all, roundAll, roundOne, roundSameSide, roundDiagonal,
    snipAndRound, snipOne, snipSameSide, snipDiagonal, plaque]

end Rectangle

/-! ## Stars -/

namespace Star

/-- A star of numbers. -/
@[simp] def lifted (s : Star ℝ) : Star α :=
  ⟨s.points, RealExtension.lifted s.start, RealExtension.lifted s.cx, RealExtension.lifted s.cy,
    RealExtension.lifted s.rx, RealExtension.lifted s.ry, RealExtension.lifted s.inner⟩

theorem point_lifted (s : Star ℝ) (deg k : ℝ) :
    (s.lifted : Star α).point (RealExtension.lifted deg) (RealExtension.lifted k)
      = liftedPair (s.point deg k) := by
  simp [point]

/-- The full turn is divided by the number of points, which is not zero where there is a corner. -/
theorem corner_lifted (s : Star ℝ) {i : ℕ} (hi : i < s.points) :
    (s.lifted : Star α).corner i = (s.corner i).map liftedPair := by
  -- a star without points has no corner, and its step would divide by zero
  have hpoints : (Scalar.ofInt s.points : ℝ) ≠ 0 := by
    rw [Exact.ofInt_eq]
    exact_mod_cast Nat.ne_zero_of_lt hi
  have hstep : (s.lifted : Star α).angleStep = RealExtension.lifted s.angleStep := by
    simp only [angleStep, lifted, literal_lifted, ofInt_lifted, lifted_div _ hpoints]
  have hstart : (s.lifted : Star α).start = RealExtension.lifted s.start := rfl
  have hinner : (s.lifted : Star α).inner = RealExtension.lifted s.inner := rfl
  simp only [corner, hstep, hstart, hinner, ofInt_lifted, literal_lifted, lifted_div_literal,
    lifted_mul, lifted_add, point_lifted, List.map_cons, List.map_nil]

@[simp] theorem lifted_outline (s : Star ℝ) : (s.outline.lifted : Path α) = s.lifted.outline := by
  have hcorners : (List.range s.points).flatMap (s.lifted : Star α).corner
      = ((List.range s.points).flatMap s.corner).map liftedPair := by
    rw [List.map_flatMap]
    exact List.flatMap_congr fun i hi => s.corner_lifted (List.mem_range.mp hi)
  unfold outline
  rw [Path.lifted_polygon, ← hcorners]
  rfl

theorem givesNumbers :
    GivesNumbers star5 ∧ GivesNumbers star6 ∧ GivesNumbers star7 ∧ GivesNumbers star10 := by
  simp +contextual [GivesNumbers, centered, widened, heightened, star5, star6, star7, star10]

theorem even_givesNumbers (points : ℕ) : GivesNumbers (even points) := by
  simp +contextual [GivesNumbers, centered, even]

theorem drawsNumbers : DrawsNumbers irregularSeal1 ∧ DrawsNumbers irregularSeal2 := by
  simp (disch := decide) [DrawsNumbers, Path.lifted_drawnIn, sealOutline, irregularSeal1,
    irregularSeal2]

end Star

/-! ## Arrows -/

namespace BlockArrow

theorem givesNumbers :
    GivesNumbers right ∧ GivesNumbers left ∧ GivesNumbers leftRight ∧ GivesNumbers stripedRight ∧
      GivesNumbers notchedRight ∧ GivesNumbers quad ∧ GivesNumbers leftRightUp ∧
      GivesNumbers leftUp ∧ GivesNumbers bentUp ∧ GivesNumbers bent ∧ GivesNumbers uTurn := by
  simp +contextual [GivesNumbers, shaftAndHead, heads, right, left, leftRight, stripedRight,
    notchedRight, quad, leftRightUp, leftUp, bentUp, bent, uTurn]

theorem vertical_givesNumbers : GivesNumbers up ∧ GivesNumbers down ∧ GivesNumbers upDown := by
  obtain ⟨hright, hleft, hleftRight, -⟩ := givesNumbers
  exact ⟨hleft.transposed, hright.transposed, hleftRight.transposed⟩

end BlockArrow

namespace ArrowCallout

theorem givesNumbers :
    GivesNumbers right ∧ GivesNumbers left ∧ GivesNumbers leftRight ∧ GivesNumbers quad := by
  simp +contextual [GivesNumbers, parts, right, left, leftRight, quad]

theorem vertical_givesNumbers : GivesNumbers up ∧ GivesNumbers down ∧ GivesNumbers upDown := by
  obtain ⟨hright, hleft, hleftRight, -⟩ := givesNumbers
  exact ⟨hleft.transposed, hright.transposed, hleftRight.transposed⟩

end ArrowCallout

end ShapeOutline.Preset
