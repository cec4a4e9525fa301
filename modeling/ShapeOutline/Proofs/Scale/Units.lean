import Mathlib
import ShapeOutline.Preset
import ShapeOutline.Proofs.Scale.Formula

/-!
# Guides in other units

The values of guides are kept multiplied by the scale of the document, and formulas read them divided by
it. Kept in other units, they are read as the same values, and so every formula gives the same outline.

* `GuideSet.rescaled`, `GuideSet.raw_rescaled`: a set kept in other units, and what is read from it;
* `GuideSet.resolve_rescaled`: what a document says, at another scale;
* `UnitFree`: a formula gives the same, whatever the units are;
* `Kind.preset_unitFree`, `Kind.outline_rescaled`: the formula of every kind.
-/

namespace ShapeOutline

/-! ## Guide sets -/

/-- The scale that is `k` times as large. -/
def UnitScale.rescaled (k : ℝˣ) (s : UnitScale ℝ) : UnitScale ℝ := ⟨s.factor * k⟩

namespace GuideSet

variable (k : ℝˣ) (s : GuideSet ℝ)

/-- The same guides, kept at a scale that is `k` times as large. -/
def rescaled : GuideSet ℝ := ⟨s.scale.rescaled k, s.values.map fun v => (v.1, v.2 * k)⟩

theorem get?_rescaled (name : String) : (s.rescaled k).get? name = (s.get? name).map fun v => v * (k : ℝ) := by
  unfold get? rescaled
  dsimp only
  rw [List.find?_map, Option.map_map, Option.map_map]
  rfl

/-- A guide is read as it was. -/
theorem raw_rescaled (name : String) : (s.rescaled k).raw name = s.raw name := by
  unfold raw get
  rw [get?_rescaled]
  cases s.get? name with
  | none => rfl
  | some v => exact congrArg Except.ok (mul_div_mul_right v s.scale.factor k.ne_zero)

/-- What a document says, at another scale. -/
theorem resolve_rescaled (decls : List (GuideDecl ℝ)) (raw : List RawGuide) (scale : UnitScale ℝ) :
    resolve decls raw (scale.rescaled k) = (resolve decls raw scale).rescaled k := by
  refine congrArg (GuideSet.mk _) ?_
  dsimp only [resolve]
  rw [List.map_map]
  refine List.map_congr_left fun d _ => ?_
  exact congrArg (Prod.mk d.name) (mul_assoc _ scale.factor (k : ℝ)).symm

end GuideSet

/-! ## Frames -/

namespace Frame

variable (f : Frame ℝ) (k : ℝˣ)

/-- The same frame, with its guides kept at a scale that is `k` times as large. -/
def rescaled : Frame ℝ := ⟨f.w, f.h, f.guides.rescaled k⟩

@[simp] theorem w_rescaled : (f.rescaled k).w = f.w := rfl

@[simp] theorem h_rescaled : (f.rescaled k).h = f.h := rfl

@[simp] theorem transposed_rescaled : (f.rescaled k).transposed = f.transposed.rescaled k := rfl

@[simp] theorem ss_rescaled : (f.rescaled k).ss = f.ss := rfl

@[simp] theorem ls_rescaled : (f.rescaled k).ls = f.ls := rfl

@[simp] theorem hc_rescaled : (f.rescaled k).hc = f.hc := rfl

@[simp] theorem vc_rescaled : (f.rescaled k).vc = f.vc := rfl

@[simp] theorem wd2_rescaled : (f.rescaled k).wd2 = f.wd2 := rfl

@[simp] theorem hd2_rescaled : (f.rescaled k).hd2 = f.hd2 := rfl

@[simp] theorem ofShort_rescaled : (f.rescaled k).ofShort = f.ofShort := rfl

@[simp] theorem ofWidth_rescaled : (f.rescaled k).ofWidth = f.ofWidth := rfl

@[simp] theorem ofHeight_rescaled : (f.rescaled k).ofHeight = f.ofHeight := rfl

@[simp] theorem maxAdj_rescaled : (f.rescaled k).maxAdj = f.maxAdj := rfl

@[simp] theorem adj_rescaled (name : String) : (f.rescaled k).adj name = f.adj name :=
  f.guides.raw_rescaled k name

@[simp] theorem angle_rescaled (name : String) : (f.rescaled k).angle name = f.angle name := by
  rw [angle, angle, adj_rescaled]

@[simp] theorem shortShare_rescaled (name : String) (limit : ℝ) :
    (f.rescaled k).shortShare name limit = f.shortShare name limit := by
  rw [shortShare, shortShare, adj_rescaled, ofShort_rescaled]

end Frame

/-! ## Formulas -/

/-- What is computed in a frame is the same in whatever units the guides are kept. -/
def UnitFree {β : Type} (formula : Frame ℝ → Guided β) : Prop :=
  ∀ (f : Frame ℝ) (k : ℝˣ), formula (f.rescaled k) = formula f

namespace Preset

/-! Reading guides is all that the formulas do with them. With their helpers opened, both sides read the
same values. -/

theorem Connector.unitFree :
    UnitFree Connector.bent3 ∧ UnitFree Connector.bent4 ∧ UnitFree Connector.bent5 ∧
      UnitFree Connector.curved3 ∧ UnitFree Connector.curved4 ∧ UnitFree Connector.curved5 := by
  simp [UnitFree, Connector.bent3, Connector.bent4, Connector.bent5, Connector.curved3,
    Connector.curved4, Connector.curved5]

theorem Polygon.unitFree :
    UnitFree Polygon.triangle ∧ UnitFree Polygon.parallelogram ∧ UnitFree Polygon.trapezoid ∧
      UnitFree Polygon.nonIsoscelesTrapezoid ∧ UnitFree Polygon.pentagon ∧
      UnitFree Polygon.hexagon ∧ UnitFree Polygon.heptagon ∧ UnitFree Polygon.octagon ∧
      UnitFree Polygon.decagon ∧ UnitFree Polygon.cross ∧ UnitFree Polygon.homePlate ∧
      UnitFree Polygon.chevron := by
  simp [UnitFree, Polygon.triangle, Polygon.parallelogram, Polygon.trapezoid,
    Polygon.nonIsoscelesTrapezoid, Polygon.pentagon, Polygon.hexagon, Polygon.heptagon,
    Polygon.octagon, Polygon.decagon, Polygon.cross, Polygon.homePlate, Polygon.chevron]

theorem Round.unitFree :
    UnitFree Round.teardrop ∧ UnitFree Round.pie ∧ UnitFree Round.chord ∧ UnitFree Round.arc ∧
      UnitFree Round.blockArc ∧ UnitFree Round.donut ∧ UnitFree Round.noSmoking ∧
      UnitFree Round.moon := by
  simp [UnitFree, Round.anglePair, Round.teardrop, Round.pie, Round.chord, Round.arc,
    Round.blockArc, Round.donut, Round.noSmoking, Round.moon]

theorem Border.unitFree :
    UnitFree Border.frame ∧ UnitFree Border.halfFrame ∧ UnitFree Border.corner ∧
      UnitFree Border.diagonalStripe ∧ UnitFree Border.bevel ∧ UnitFree Border.foldedCorner := by
  simp [UnitFree, Border.frame, Border.halfFrame, Border.corner, Border.diagonalStripe,
    Border.bevel, Border.foldedCorner]

theorem Pictorial.unitFree :
    UnitFree Pictorial.can ∧ UnitFree Pictorial.cube ∧ UnitFree Pictorial.smileyFace ∧
      UnitFree Pictorial.sun := by
  simp [UnitFree, Pictorial.can, Pictorial.cube, Pictorial.smileyFace, Pictorial.sun]

theorem Rectangle.unitFree :
    UnitFree Rectangle.roundAll ∧ UnitFree Rectangle.roundOne ∧ UnitFree Rectangle.roundSameSide ∧
      UnitFree Rectangle.roundDiagonal ∧ UnitFree Rectangle.snipAndRound ∧
      UnitFree Rectangle.snipOne ∧ UnitFree Rectangle.snipSameSide ∧
      UnitFree Rectangle.snipDiagonal ∧ UnitFree Rectangle.plaque := by
  simp [UnitFree, Rectangle.roundAll, Rectangle.roundOne, Rectangle.roundSameSide,
    Rectangle.roundDiagonal, Rectangle.snipAndRound, Rectangle.snipOne, Rectangle.snipSameSide,
    Rectangle.snipDiagonal, Rectangle.plaque]

theorem Star.unitFree :
    UnitFree Star.star5 ∧ UnitFree Star.star6 ∧ UnitFree Star.star7 ∧ UnitFree Star.star10 := by
  simp [UnitFree, Star.centered, Star.widened, Star.heightened, Star.star5, Star.star6, Star.star7,
    Star.star10]

theorem Star.even_unitFree (points : Nat) : UnitFree (Star.even points) := by
  simp [UnitFree, Star.even, Star.centered]

theorem BlockArrow.unitFree :
    UnitFree BlockArrow.right ∧ UnitFree BlockArrow.left ∧ UnitFree BlockArrow.up ∧
      UnitFree BlockArrow.down ∧ UnitFree BlockArrow.stripedRight ∧
      UnitFree BlockArrow.notchedRight ∧ UnitFree BlockArrow.leftRight ∧
      UnitFree BlockArrow.upDown ∧ UnitFree BlockArrow.quad ∧ UnitFree BlockArrow.leftRightUp ∧
      UnitFree BlockArrow.leftUp ∧ UnitFree BlockArrow.bentUp ∧ UnitFree BlockArrow.bent ∧
      UnitFree BlockArrow.uTurn := by
  simp [UnitFree, BlockArrow.shaftAndHead, BlockArrow.heads, BlockArrow.right, BlockArrow.left,
    BlockArrow.up, BlockArrow.down, BlockArrow.stripedRight, BlockArrow.notchedRight,
    BlockArrow.leftRight, BlockArrow.upDown, BlockArrow.quad, BlockArrow.leftRightUp,
    BlockArrow.leftUp, BlockArrow.bentUp, BlockArrow.bent, BlockArrow.uTurn]

theorem ArrowCallout.unitFree :
    UnitFree ArrowCallout.right ∧ UnitFree ArrowCallout.left ∧ UnitFree ArrowCallout.up ∧
      UnitFree ArrowCallout.down ∧ UnitFree ArrowCallout.leftRight ∧ UnitFree ArrowCallout.upDown ∧
      UnitFree ArrowCallout.quad := by
  simp [UnitFree, ArrowCallout.parts, ArrowCallout.right, ArrowCallout.left, ArrowCallout.up,
    ArrowCallout.down, ArrowCallout.leftRight, ArrowCallout.upDown, ArrowCallout.quad]

theorem Callout.tipOffset_rescaled (f : Frame ℝ) (k : ℝˣ) :
    Callout.tipOffset (f.rescaled k) = Callout.tipOffset f := by
  simp [Callout.tipOffset]

theorem Callout.unitFree :
    UnitFree Callout.wedgeRect ∧ UnitFree Callout.wedgeRoundRect ∧ UnitFree Callout.wedgeEllipse ∧
      UnitFree Callout.cloudCallout := by
  refine ⟨?_, ?_, ?_, ?_⟩
  · simp [UnitFree, Callout.wedgeRect, Callout.wedge, Callout.tipOffset_rescaled]
  · simp [UnitFree, Callout.wedgeRoundRect, Callout.wedge, Callout.tipOffset_rescaled]
  · -- the sweep is decided by a test, which is one of the same numbers
    intro f k
    rw [Callout.wedgeEllipse, Callout.tipOffset_rescaled]
    rfl
  · simp [UnitFree, Callout.cloudCallout, Callout.cloud, Callout.tipOffset_rescaled]

theorem Callout.boxed_unitFree (points : Nat) (accent : Bool) :
    UnitFree (Callout.boxed points accent) := by
  simp [UnitFree, Callout.boxed, Callout.leader]

theorem Bracket.unitFree :
    UnitFree Bracket.leftBracket ∧ UnitFree Bracket.rightBracket ∧ UnitFree Bracket.leftBrace ∧
      UnitFree Bracket.rightBrace ∧ UnitFree Bracket.bracketPair ∧ UnitFree Bracket.bracePair := by
  simp [UnitFree, Bracket.curveHeight, Bracket.braceParts, Bracket.leftBracket,
    Bracket.rightBracket, Bracket.leftBrace, Bracket.rightBrace, Bracket.bracketPair,
    Bracket.bracePair]

theorem Equation.unitFree :
    UnitFree Equation.plusSign ∧ UnitFree Equation.minusSign ∧ UnitFree Equation.timesSign ∧
      UnitFree Equation.divisionSign ∧ UnitFree Equation.equalSign ∧
      UnitFree Equation.notEqualSign := by
  simp [UnitFree, Equation.twoBars, Equation.plusSign, Equation.minusSign, Equation.timesSign,
    Equation.divisionSign, Equation.equalSign, Equation.notEqualSign]

theorem Banner.wave_rescaled (f : Frame ℝ) (k : ℝˣ) (limit : ℝ) :
    Banner.wave (f.rescaled k) limit = Banner.wave f limit := by
  rw [Banner.wave, Frame.adj_rescaled, Frame.adj_rescaled]
  rfl

theorem Banner.unitFree :
    UnitFree Banner.ribbonDown ∧ UnitFree Banner.ribbonUp ∧ UnitFree Banner.verticalScroll ∧
      UnitFree Banner.horizontalScroll ∧ UnitFree Banner.singleWave ∧ UnitFree Banner.doubleWave := by
  simp [UnitFree, Banner.wave_rescaled, Banner.ribbonDown, Banner.ribbonUp, Banner.verticalScroll,
    Banner.horizontalScroll, Banner.singleWave, Banner.doubleWave]

/-- A drawing that reads no guides, as the formula of a preset. -/
theorem unitFree_plain {draw : Frame ℝ → Path ℝ}
    (h : ∀ (f : Frame ℝ) (k : ℝˣ), draw (f.rescaled k) = draw f) :
    UnitFree (Preset.plain draw).outline :=
  fun f k => congrArg Except.ok (h f k)

end Preset

namespace Kind

open Preset

theorem preset_unitFree (kind : Kind) :
    ∀ p ∈ (kind.preset? : Option (Preset ℝ)), UnitFree p.outline := by
  intro p hp
  cases kind <;> cases hp
  -- without guides there is nothing that depends on the units
  any_goals exact unitFree_plain fun _ _ => rfl
  all_goals
    simp only [Connector.unitFree, Polygon.unitFree, Round.unitFree, Border.unitFree,
      Pictorial.unitFree, Rectangle.unitFree, Star.unitFree, Star.even_unitFree,
      BlockArrow.unitFree, ArrowCallout.unitFree, Callout.unitFree, Callout.boxed_unitFree,
      Bracket.unitFree, Equation.unitFree, Banner.unitFree]

/-- The outline of a kind does not depend on the scale at which its guides are kept. -/
theorem outline_rescaled (kind : Kind) (w h : ℝ) (guides : GuideSet ℝ) (k : ℝˣ) :
    kind.outline w h (guides.rescaled k) = kind.outline w h guides := by
  unfold outline
  cases hpreset : (kind.preset? : Option (Preset ℝ)) with
  | none => rfl
  | some p => exact kind.preset_unitFree p hpreset ⟨w, h, guides⟩ k

end Kind

end ShapeOutline
