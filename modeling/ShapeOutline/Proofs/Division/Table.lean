import Mathlib
import ShapeOutline.Preset
import ShapeOutline.Proofs.Preset.Table
import ShapeOutline.Proofs.Division.Figures
import ShapeOutline.Proofs.Division.Symbols

/-!
# No outline divides by zero

For a box, guides and a scale that are numbers, the outline of every kind is given by numbers, whatever else
the scalars may be and whatever a division by zero may give. So nothing that a division by zero gives can be
in an outline, nor decide what is in it: the box may have no extent, and the guides any values.

* `Checked`: numbers and an error, which a division by zero gives;
* `Kind.preset?_extends`: the formula of every kind gives numbers;
* `Kind.outline_lifted`: so does the outline of every kind, for what a document says of its guides.
-/

namespace ShapeOutline

/-! ## An error for a division by zero -/

/-- The real numbers, and what a division by zero gives. -/
inductive Checked where
  | number (x : ℝ)
  | divisionByZero

namespace Checked

/-- An operation on numbers. An error stays an error. -/
def map (g : ℝ → ℝ) : Checked → Checked
  | number x => number (g x)
  | divisionByZero => divisionByZero

/-- An operation on two numbers. -/
def map₂ (g : ℝ → ℝ → ℝ) : Checked → Checked → Checked
  | number x, number y => number (g x y)
  | _, _ => divisionByZero

/-- An operation that divides by the second of two numbers. -/
noncomputable def divide (g : ℝ → ℝ → ℝ) : Checked → Checked → Checked
  | number x, number y => if y = 0 then divisionByZero else number (g x y)
  | _, _ => divisionByZero

/-- A relation between two numbers, in which no error is. -/
def Holds (r : ℝ → ℝ → Prop) : Checked → Checked → Prop
  | number x, number y => r x y
  | _, _ => False

/-- The number, or zero for an error. -/
def value : Checked → ℝ
  | number x => x
  | divisionByZero => 0

/-- Whether it is a number. -/
def isNumber : Checked → Bool
  | number _ => true
  | divisionByZero => false

open Classical in
noncomputable instance : RealExtension Checked where
  lifted := number
  ofNat n := number (Scalar.ofNat n)
  ofScientific m negative e := number (Scalar.ofScientific m negative e)
  pi := number Scalar.pi
  add := map₂ (· + ·)
  sub := map₂ (· - ·)
  mul := map₂ (· * ·)
  div := divide (· / ·)
  neg := map (-·)
  lt := Holds (· < ·)
  le := Holds (· ≤ ·)
  beq x y := decide (Holds (· = ·) x y)
  abs := map Scalar.abs
  min := map₂ Scalar.min
  max := map₂ Scalar.max
  sqrt := map Scalar.sqrt
  hypot := map₂ Scalar.hypot
  sin := map Scalar.sin
  cos := map Scalar.cos
  tan := map Scalar.tan
  atan2 := map₂ Scalar.atan2
  round := map Scalar.round
  trunc := map Scalar.trunc
  rem := divide Scalar.rem
  isFinite := isNumber
  isNaN x := !x.isNumber
  ltDecidable _ _ := propDecidable _
  leDecidable _ _ := propDecidable _
  magnitude x := Scalar.magnitude x.value
  powerOfTen e := number (Scalar.powerOfTen e)
  units places x := Scalar.units places x.value
  ofNat_eq _ := rfl
  ofScientific_eq _ _ _ := rfl
  pi_eq := rfl
  lifted_add _ _ := rfl
  lifted_sub _ _ := rfl
  lifted_mul _ _ := rfl
  neg_lifted _ := rfl
  lifted_div _ _ hy := if_neg hy
  lifted_lt _ _ := Iff.rfl
  lifted_le _ _ := Iff.rfl
  lifted_beq _ _ := decide_eq_true_iff
  abs_lifted _ := rfl
  min_lifted _ _ := rfl
  max_lifted _ _ := rfl
  sqrt_lifted _ := rfl
  hypot_lifted _ _ := rfl
  sin_lifted _ := rfl
  cos_lifted _ := rfl
  tan_lifted _ := rfl
  atan2_lifted _ _ := rfl
  round_lifted _ := rfl
  trunc_lifted _ := rfl
  rem_lifted _ _ hm := if_neg hm
  isFinite_lifted _ := rfl
  isNaN_lifted _ := rfl

theorem div_zero (x : ℝ) : number x / number 0 = divisionByZero := if_pos rfl

end Checked

/-! ## Every kind -/

open RealExtension

variable {α : Type} [RealExtension α]

/-- A formula and that of the real numbers read the same guides, and for numbers they give the same. -/
structure Preset.Extends (p : Preset α) (exact : Preset ℝ) : Prop where
  guides : p.guides = exact.guides
  outline : ∀ f : Frame ℝ, f.Readable → p.outline f.lifted = (exact.outline f).map Path.lifted

namespace Kind

open Preset

/-- Each kind has a formula among the other scalars when it has one among the real numbers, and the one
extends the other. -/
theorem preset?_extends (k : Kind) :
    Option.Rel Preset.Extends (k.preset? : Option (Preset α)) (k.preset? : Option (Preset ℝ)) := by
  cases k
  -- the table gives the same guides for either scalars, and what is left is one goal for each formula
  all_goals first | exact .none | refine .some ⟨rfl, fun f hf => ?_⟩
  all_goals
    simp only [Preset.plain, Guided.map_ok, hf, Connector.givesNumbers, Connector.drawsNumbers,
      Polygon.givesNumbers, Polygon.drawsNumbers, Round.givesNumbers, Round.drawsNumbers,
      Border.givesNumbers, Pictorial.givesNumbers, Pictorial.drawsNumbers, Rectangle.givesNumbers,
      Star.givesNumbers, Star.even_givesNumbers, Star.drawsNumbers, BlockArrow.givesNumbers,
      BlockArrow.vertical_givesNumbers, ArrowCallout.givesNumbers,
      ArrowCallout.vertical_givesNumbers, Bracket.givesNumbers, Banner.givesNumbers,
      Banner.turned_givesNumbers, Callout.bubble_givesNumbers, Callout.boxed_givesNumbers,
      Callout.cloud_lifted, Flowchart.glyphs_drawNumbers, Flowchart.drawsNumbers,
      Equation.givesNumbers, Equation.notEqualSign_givesNumbers, Mark.drawsNumbers,
      ActionButton.drawsNumbers]

theorem guides_lifted (k : Kind) :
    (k.guides : List (GuideDecl α)) = (k.guides : List (GuideDecl ℝ)).map GuideDecl.lifted := by
  have hextends := k.preset?_extends (α := α)
  unfold guides
  generalize (k.preset? : Option (Preset α)) = p at hextends ⊢
  generalize (k.preset? : Option (Preset ℝ)) = exact at hextends ⊢
  cases hextends with
  | none => rfl
  | some hextends =>
    dsimp only
    rw [hextends.guides, List.map_map]
    exact List.map_congr_left fun g _ => congrArg (GuideDecl.mk g.1) (ofInt_lifted g.2)

/-- For a box and for guides that are numbers, the outline of a kind is that of the real numbers. -/
theorem outline_frame_lifted (k : Kind) {f : Frame ℝ} (hf : f.Readable) :
    k.outline (lifted f.w) (lifted f.h) (f.guides.lifted : GuideSet α)
      = (k.outline f.w f.h f.guides).map Path.lifted := by
  have hextends := k.preset?_extends (α := α)
  unfold outline
  generalize (k.preset? : Option (Preset α)) = p at hextends ⊢
  generalize (k.preset? : Option (Preset ℝ)) = exact at hextends ⊢
  cases hextends with
  | none => rfl
  | some hextends => exact hextends.outline f hf

/-- No outline divides by zero. For every kind, every box, which may have no extent, whatever a document says
of its guides, and every scale that is accepted, the guides, what is read from them and the outline are given
by numbers, those that the real numbers give. -/
theorem outline_lifted (k : Kind) (w h : ℝ) (raw : List RawGuide) {factor : ℝ} {scale : UnitScale α}
    (hscale : UnitScale.ofFactor (lifted factor) = .ok scale) :
    let exact : GuideSet ℝ := .resolve k.guides raw ⟨factor⟩
    let guides : GuideSet α := .resolve k.guides raw scale
    guides = exact.lifted ∧ (∀ name, guides.raw name = (exact.raw name).map lifted) ∧
      ∃ p : Path ℝ, k.outline w h exact = .ok p ∧
        k.outline (lifted w) (lifted h) guides = .ok p.lifted := by
  intro exact guides
  obtain ⟨hpos, rfl⟩ := UnitScale.ofFactor_lifted.mp hscale
  have hguides : guides = exact.lifted :=
    (congrArg (GuideSet.resolve · raw _) k.guides_lifted).trans (GuideSet.resolve_lifted k.guides raw _)
  obtain ⟨p, hp, -⟩ := k.outline_resolve_drawable w h raw ⟨factor⟩
  have houtline := k.outline_frame_lifted (α := α) (f := ⟨w, h, exact⟩) hpos.ne'
  rw [hguides]
  refine ⟨rfl, exact.raw_lifted hpos.ne', p, hp, ?_⟩
  rw [houtline, hp]
  rfl

/-- The sign of inequality in a box without extent, with a guide whose formula divides by zero. -/
theorem notEqual_lifted :
    UnitScale.ofFactor (Checked.number 2) = .ok ⟨.number 2⟩ ∧
      let exact : GuideSet ℝ := .resolve mathNotEqual.guides [⟨"adj1", "*/ 1 2 0"⟩] ⟨2⟩
      let guides : GuideSet Checked :=
        .resolve mathNotEqual.guides [⟨"adj1", "*/ 1 2 0"⟩] ⟨.number 2⟩
      guides = exact.lifted ∧ (∀ name, guides.raw name = (exact.raw name).map .number) ∧
        ∃ p : Path ℝ, mathNotEqual.outline 0 0 exact = .ok p ∧
          mathNotEqual.outline (.number 0) (.number 0) guides = .ok p.lifted := by
  have hscale : UnitScale.ofFactor (Checked.number 2) = .ok ⟨.number 2⟩ :=
    UnitScale.ofFactor_lifted.mpr ⟨two_pos, rfl⟩
  exact ⟨hscale, outline_lifted mathNotEqual 0 0 [⟨"adj1", "*/ 1 2 0"⟩] hscale⟩

end Kind

end ShapeOutline
