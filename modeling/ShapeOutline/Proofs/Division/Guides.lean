import Mathlib
import ShapeOutline.Proofs.Division.Arithmetic
import ShapeOutline.Guide.Set

/-!
# Guides with numbers that may be something else

The formula of a guide is read without computing, and its operators guard the two quotients they have. What a
document gives a guide is therefore a number, the one that the real numbers give. Guides are kept multiplied
by the scale of the document, and reading them divides by it; a scale is accepted only when it is positive.

* `Operator.value?_lifted`, `guideValue_lifted`: the value of an operator, and of a formula;
* `UnitScale.ofFactor_lifted`: a scale that is accepted is a positive number;
* `GuideSet.resolve_lifted`, `GuideSet.raw_lifted`: the guides of a document, and what is read from them.
-/

namespace ShapeOutline

open RealExtension

variable {α : Type} [RealExtension α]

/-! ## Operators -/

theorem angleRadians_lifted (units : ℝ) :
    Operator.angleRadians (lifted units) = (lifted (Operator.angleRadians units) : α) := by
  simp only [Operator.angleRadians, literal_lifted, lifted_div_literal, radians_lifted]

theorem angleUnits_lifted (radians : ℝ) :
    Operator.angleUnits (lifted radians) = (lifted (Operator.angleUnits radians) : α) := by
  simp only [Operator.angleUnits, literal_lifted, degrees_lifted, lifted_mul]

/-- Operators give numbers for numbers. -/
theorem Operator.value?_lifted (op : Operator) (args : List ℝ) :
    op.value? (args.map lifted : List α) = (op.value? args).map lifted := by
  -- an operator has a value on as many operands as it takes
  rcases args with _ | ⟨x, _ | ⟨y, _ | ⟨z, _ | ⟨u, rest⟩⟩⟩⟩
  · cases op <;> rfl
  · cases op <;> simp [value?]
  · cases op <;> simp [value?, angleRadians_lifted, angleUnits_lifted]
  · cases op with
    | mulDiv =>
      show some (Scalar.quotient (lifted x * lifted y) (lifted z)) = _
      rw [lifted_mul, quotient_lifted]
      rfl
    | addDiv =>
      show some (Scalar.quotient (lifted x + lifted y) (lifted z)) = _
      rw [lifted_add, quotient_lifted]
      rfl
    | _ => simp [value?]
  · cases op <;> rfl

/-! ## Formulas -/

/-- An operand whose value is a number. -/
def Operand.lifted : Operand ℝ → Operand α
  | literal value => literal (RealExtension.lifted value)
  | name n start stop => name n start stop

namespace Formula

/-- A formula whose operands are numbers. -/
def lifted (f : Formula ℝ) : Formula α := ⟨f.guide, f.source, f.op, f.args.map Operand.lifted⟩

theorem numberValue_lifted (n : NumberText) :
    (n.value : α) = RealExtension.lifted n.value := by
  simp only [NumberText.value, decimalValue, ofScientific_eq, neg_lifted, ite_lifted]

/-- Reading does not compute with the values of literals. -/
theorem operand?_lifted (c : Cursor) :
    (operand? c : Option (Operand α × Cursor)) = (operand? c).map (Prod.map Operand.lifted id) := by
  unfold operand?
  rcases number? c.rest with _ | ⟨n, rest⟩
  · dsimp only
    split <;> rfl
  · dsimp only
    rw [numberValue_lifted]
    rfl

theorem operands_lifted (fuel : ℕ) (c : Cursor) :
    (operands fuel c : List (Operand α) × Cursor)
      = Prod.map (List.map Operand.lifted) id (operands fuel c) := by
  induction fuel generalizing c with
  | zero => rfl
  | succ fuel ih =>
    unfold operands
    rw [operand?_lifted]
    rcases (operand? c.skipBlanks : Option (Operand ℝ × Cursor)) with _ | ⟨arg, behind⟩
    · rfl
    · dsimp only [Option.map_some, Prod.map_apply, id_eq]
      rw [ih behind]
      rfl

theorem read_lifted (text : String) :
    (read text : Except _ (Operator × List (Operand α)))
      = (read text).map (Prod.map id (List.map Operand.lifted)) := by
  unfold read
  dsimp only
  split
  · rw [operand?_lifted]
    rcases (operand? _ : Option (Operand ℝ × Cursor)) with _ | ⟨arg, behind⟩
    · rfl
    · simp only [Option.map_some, Prod.map_apply, id_eq]
      split <;> rfl
  · rcases operator? _ with _ | ⟨op, behind⟩
    · rfl
    · dsimp only
      rw [operands_lifted]
      rcases (operands _ behind : List (Operand ℝ) × Cursor) with ⟨args, stop⟩
      dsimp only [Prod.map_apply, id_eq]
      split <;> rfl

theorem parse_lifted (guide text : String) :
    (parse guide text : Except GuideError (Formula α)) = (parse guide text).map lifted := by
  unfold parse
  rw [read_lifted]
  rcases (read text : Except _ (Operator × List (Operand ℝ))) with ⟨expected, offset⟩ | ⟨op, args⟩
  · rfl
  · dsimp only [Except.map, Prod.map_apply, id_eq]
    rw [List.length_map]
    split <;> rfl

theorem angleConstant?_lifted (name : String) :
    (angleConstant? name : Option α) = (angleConstant? name).map RealExtension.lifted := by
  unfold angleConstant?
  simp only [literal_lifted]
  split <;> rfl

theorem operandValue_lifted (arg : Operand ℝ) :
    operandValue (arg.lifted : Operand α) = (operandValue arg).map RealExtension.lifted := by
  cases arg with
  | literal v => rfl
  | name n start stop =>
    simp only [Operand.lifted, operandValue]
    rw [angleConstant?_lifted]
    cases (angleConstant? n : Option ℝ) <;> rfl

theorem mapM_operandValue_lifted (args : List (Operand ℝ)) :
    (args.map Operand.lifted).mapM (operandValue : Operand α → _)
      = (args.mapM operandValue).map (List.map RealExtension.lifted) := by
  induction args with
  | nil => rfl
  | cons arg args ih =>
    rw [List.map_cons, List.mapM_cons, List.mapM_cons, ih, operandValue_lifted]
    cases operandValue arg with
    | error fault => rfl
    | ok v => cases args.mapM operandValue <;> rfl

theorem valueOf_lifted (op : Operator) (args : List (Operand ℝ)) :
    valueOf op (args.map Operand.lifted : List (Operand α))
      = (valueOf op args).map RealExtension.lifted := by
  unfold valueOf
  rw [mapM_operandValue_lifted]
  cases args.mapM operandValue with
  | error fault => rfl
  | ok values =>
    dsimp only [Except.map, bind, Except.bind]
    rw [op.value?_lifted]
    cases op.value? values with
    | none =>
      rw [List.length_map]
      rfl
    | some v =>
      dsimp only [Option.map_some]
      rw [isFinite_lifted]
      rfl

/-- A formula of numbers has the value that the real numbers give it. -/
theorem evaluate_lifted (f : Formula ℝ) :
    (f.lifted : Formula α).evaluate = f.evaluate.map RealExtension.lifted := by
  unfold evaluate
  dsimp only [lifted]
  rw [valueOf_lifted]
  cases valueOf f.op f.args <;> rfl

end Formula

theorem guideValue_lifted (guide text : String) :
    (guideValue guide text : Except GuideError α) = (guideValue guide text).map lifted := by
  unfold guideValue
  rw [Formula.parse_lifted]
  cases (Formula.parse guide text : Except GuideError (Formula ℝ)) with
  | error e => rfl
  | ok f => exact f.evaluate_lifted

/-! ## Scales -/

namespace UnitScale

/-- A scale that is a number. -/
def lifted (s : UnitScale ℝ) : UnitScale α := ⟨RealExtension.lifted s.factor⟩

/-- A number is accepted as a scale when it is positive. -/
theorem ofFactor_lifted {v : ℝ} {scale : UnitScale α} :
    ofFactor (RealExtension.lifted v) = .ok scale ↔ 0 < v ∧ scale = lifted ⟨v⟩ := by
  have hfinite : checkFinite (RealExtension.lifted v : α) = .ok (RealExtension.lifted v) := by
    simp [checkFinite, MeasureError.ofNonFinite?]
  have hchecks : ofFactor (RealExtension.lifted v : α)
      = if v = 0 then .error .zero else if v < 0 then .error .negative else .ok (lifted ⟨v⟩) := by
    unfold ofFactor
    rw [hfinite, literal_lifted, Exact.literal_zero]
    simp only [lifted_lt, lifted_beq, bind, Except.bind]
    rfl
  rw [hchecks]
  rcases lt_trichotomy v 0 with hneg | rfl | hpos
  · simp [hneg, hneg.ne, hneg.not_gt]
  · simp
  · simp [hpos, hpos.ne', hpos.not_gt, eq_comm]

end UnitScale

/-! ## Guide sets -/

/-- A declared guide whose default is a number. -/
def GuideDecl.lifted (d : GuideDecl ℝ) : GuideDecl α := ⟨d.name, RealExtension.lifted d.default⟩

namespace GuideSet

/-- Guides whose values are numbers. -/
def lifted (s : GuideSet ℝ) : GuideSet α :=
  ⟨s.scale.lifted, s.values.map (Prod.map id RealExtension.lifted)⟩

theorem documentValue_lifted (raw : List RawGuide) (d : GuideDecl ℝ) :
    (documentValue raw d.lifted : α) = RealExtension.lifted (documentValue raw d) := by
  unfold documentValue
  dsimp only [GuideDecl.lifted]
  cases raw.find? fun g => g.name == d.name with
  | none => rfl
  | some g =>
    dsimp only
    rw [guideValue_lifted]
    cases (guideValue g.name g.formula : Except GuideError ℝ) <;> rfl

/-- What a document says of its guides is given by numbers. -/
theorem resolve_lifted (decls : List (GuideDecl ℝ)) (raw : List RawGuide) (scale : UnitScale ℝ) :
    resolve (decls.map GuideDecl.lifted) raw scale.lifted
      = (resolve decls raw scale).lifted (α := α) := by
  refine congrArg (GuideSet.mk _) ?_
  dsimp only [resolve]
  rw [List.map_map, List.map_map]
  refine List.map_congr_left fun d _ => ?_
  show (d.name, UnitScale.apply scale.lifted (documentValue raw d.lifted)) = _
  rw [documentValue_lifted]
  exact congrArg (Prod.mk d.name) (lifted_mul _ _)

variable (s : GuideSet ℝ)

theorem get_lifted (name : String) :
    (s.lifted : GuideSet α).get name = (s.get name).map RealExtension.lifted := by
  have hfind : (s.lifted : GuideSet α).get? name = (s.get? name).map RealExtension.lifted := by
    unfold get? lifted
    dsimp only
    rw [List.find?_map, Option.map_map, Option.map_map]
    rfl
  unfold get
  rw [hfind]
  cases s.get? name <;> rfl

/-- Reading a guide divides by the scale. -/
theorem raw_lifted (hs : s.scale.factor ≠ 0) (name : String) :
    (s.lifted : GuideSet α).raw name = (s.raw name).map RealExtension.lifted := by
  unfold raw
  rw [get_lifted]
  cases s.get name with
  | error e => rfl
  | ok v => exact congrArg Except.ok (lifted_div v hs)

end GuideSet

end ShapeOutline
