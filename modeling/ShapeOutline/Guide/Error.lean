import ShapeOutline.Guide.Operator

/-!
# Errors of guide formulas

Why a guide formula gives no value, and how that is told: a message, a diagnostic code, sometimes
advice, and labels on the bytes of the formula that are to blame.
-/

namespace ShapeOutline

/-- What a reader of a formula was looking for where it stopped. -/
inductive Expected where
  | formula
  | valueOrOperator
  | operand
  | endOfText
  | endOfTextOrOperand
deriving DecidableEq, Repr

/-- Why a formula gives no value. Offsets count bytes. -/
inductive GuideFault where
  | malformed (expected : Expected) (offset : Nat)
  | arity (op : Operator) (found : Nat)
  | unresolvedOperand (name : String) (start stop : Nat)
  | nonFinite
deriving DecidableEq, Repr

/-- A formula that gives no value: whose it is, its text, and why. -/
structure GuideError where
  guide : String
  formula : String
  fault : GuideFault
deriving DecidableEq, Repr

/-- A mark on a formula: its text and the bytes it covers. -/
structure Label where
  text : String
  offset : Nat
  length : Nat

/-- What was expected, in words. -/
def Expected.message : Expected → String
  | formula => "expected formula"
  | valueOrOperator => "expected val_formula or operator"
  | operand => "expected operand"
  | endOfText => "expected EOI"
  | endOfTextOrOperand => "expected EOI or operand"

namespace GuideError

/-- What went wrong, in words. -/
def message (e : GuideError) : String :=
  match e.fault with
  | .malformed expected _ => "malformed guide formula: " ++ expected.message
  | .arity op found =>
    "operator `" ++ op.token ++ "` takes " ++ toString op.arity ++ " operands, found " ++
      toString found
  | .unresolvedOperand name _ _ =>
    "operand `" ++ name ++ "` cannot be resolved outside a shape guide list"
  | .nonFinite => "guide `" ++ e.guide ++ "` evaluated to a non-finite value"

/-- The diagnostic code. -/
def code (e : GuideError) : String :=
  match e.fault with
  | .malformed .. => "drawml_geom::guide::malformed"
  | .arity .. => "drawml_geom::guide::arity"
  | .unresolvedOperand .. => "drawml_geom::guide::unresolved_operand"
  | .nonFinite => "drawml_geom::guide::non_finite"

/-- Advice, where there is some. -/
def help? (e : GuideError) : Option String :=
  match e.fault with
  | .malformed .. => some "adjust values are written as `val N`, e.g. `val 50000`"
  | _ => none

/-- The marks on the formula. -/
def labels (e : GuideError) : List Label :=
  match e.fault with
  | .malformed _ offset => [⟨"here", offset, 0⟩]
  | .arity .. => [⟨"in this formula", 0, e.formula.utf8ByteSize⟩]
  | .unresolvedOperand _ start stop => [⟨"not a literal", start, stop - start⟩]
  | .nonFinite => []

/-- The name under which the formula is shown, and the formula, where labels refer to it. -/
def source? (e : GuideError) : Option (String × String) :=
  match e.fault with
  | .nonFinite => none
  | _ => some ("gd[" ++ e.guide ++ "]", e.formula)

end GuideError

end ShapeOutline
