import Mathlib
import ShapeOutline.Proofs.Exact

/-!
# Numbers that may be something else

Outlines can be computed with scalars among which the real numbers are, but not only they: a division by
zero may give an error that is no number, and what comes of errors later is left open. Whatever is computed
from numbers without a division by zero is then a number, the one that the real numbers give.

* `RealExtension`: scalars that go on from the real numbers;
* `RealExtension.lifted`: a real number among them;
* `pin_lifted`, `quotient_lifted`, `sinCos_lifted`, `parametricAngle_lifted`, ...: what is built from the
  operations gives numbers for numbers.

The lemmas carry `lifted` outwards through the operations of formulas, so that an expression of lifted
numbers becomes the lifted expression. Only quotients ask for more: that the divisor is not zero.
-/

namespace ShapeOutline

/-- Scalars among which the real numbers are, with their operations and their order. Nothing is said of
the other scalars, in particular of how they compare, and nothing of what a division or a remainder by zero
gives: it may be one of them. -/
class RealExtension (α : Type) extends Scalar α where
  lifted : ℝ → α
  ofNat_eq (n : ℕ) : ofNat n = lifted (Scalar.ofNat n)
  ofScientific_eq (m : ℕ) (negative : Bool) (e : ℕ) :
    ofScientific m negative e = lifted (Scalar.ofScientific m negative e)
  pi_eq : pi = lifted Scalar.pi
  lifted_add (x y : ℝ) : lifted x + lifted y = lifted (x + y)
  lifted_sub (x y : ℝ) : lifted x - lifted y = lifted (x - y)
  lifted_mul (x y : ℝ) : lifted x * lifted y = lifted (x * y)
  neg_lifted (x : ℝ) : -lifted x = lifted (-x)
  lifted_div (x : ℝ) {y : ℝ} (hy : y ≠ 0) : lifted x / lifted y = lifted (x / y)
  lifted_lt (x y : ℝ) : lifted x < lifted y ↔ x < y
  lifted_le (x y : ℝ) : lifted x ≤ lifted y ↔ x ≤ y
  lifted_beq (x y : ℝ) : (lifted x == lifted y) = true ↔ x = y
  abs_lifted (x : ℝ) : abs (lifted x) = lifted (Scalar.abs x)
  min_lifted (x y : ℝ) : min (lifted x) (lifted y) = lifted (Scalar.min x y)
  max_lifted (x y : ℝ) : max (lifted x) (lifted y) = lifted (Scalar.max x y)
  sqrt_lifted (x : ℝ) : sqrt (lifted x) = lifted (Scalar.sqrt x)
  hypot_lifted (x y : ℝ) : hypot (lifted x) (lifted y) = lifted (Scalar.hypot x y)
  sin_lifted (x : ℝ) : sin (lifted x) = lifted (Scalar.sin x)
  cos_lifted (x : ℝ) : cos (lifted x) = lifted (Scalar.cos x)
  tan_lifted (x : ℝ) : tan (lifted x) = lifted (Scalar.tan x)
  atan2_lifted (y x : ℝ) : atan2 (lifted y) (lifted x) = lifted (Scalar.atan2 y x)
  round_lifted (x : ℝ) : round (lifted x) = lifted (Scalar.round x)
  trunc_lifted (x : ℝ) : trunc (lifted x) = lifted (Scalar.trunc x)
  rem_lifted (x : ℝ) {m : ℝ} (hm : m ≠ 0) : rem (lifted x) (lifted m) = lifted (Scalar.rem x m)
  isFinite_lifted (x : ℝ) : isFinite (lifted x) = true
  isNaN_lifted (x : ℝ) : isNaN (lifted x) = false

open RealExtension

attribute [simp] lifted_add lifted_sub lifted_mul neg_lifted lifted_div lifted_lt lifted_le abs_lifted
  min_lifted max_lifted sqrt_lifted hypot_lifted sin_lifted cos_lifted tan_lifted atan2_lifted
  round_lifted trunc_lifted isFinite_lifted isNaN_lifted

variable {α : Type} [RealExtension α]

/-! ## Literals -/

@[simp] theorem literal_lifted (n : ℕ) :
    @OfNat.ofNat α n (Scalar.literal n) = lifted (@OfNat.ofNat ℝ n (Scalar.literal n)) := ofNat_eq n

@[simp] theorem decimal_lifted (m : ℕ) (negative : Bool) (e : ℕ) :
    @OfScientific.ofScientific α Scalar.decimalLiteral m negative e
      = lifted (@OfScientific.ofScientific ℝ Scalar.decimalLiteral m negative e) :=
  ofScientific_eq m negative e

@[simp] theorem ofInt_lifted (z : ℤ) : (Scalar.ofInt z : α) = lifted (Scalar.ofInt z) := by
  cases z with
  | ofNat n => exact ofNat_eq n
  | negSucc n =>
    show -Scalar.ofNat (n + 1) = _
    rw [ofNat_eq, neg_lifted]
    rfl

@[simp] theorem pi_lifted : (Scalar.pi : α) = lifted Scalar.pi := pi_eq

theorem tolerance_lifted : (Scalar.tolerance : α) = lifted Scalar.tolerance :=
  ofScientific_eq 1 true 9

section

-- literals are those that formulas have
attribute [local instance] Scalar.literal

/-- What formulas divide by is a literal, almost everywhere. -/
@[simp] theorem lifted_div_literal (x : ℝ) (n : ℕ) [NeZero n] :
    lifted x / lifted (no_index (OfNat.ofNat n)) = (lifted (x / OfNat.ofNat n) : α) :=
  lifted_div x (Nat.cast_ne_zero.mpr (NeZero.ne n))

end

/-! ## Choices -/

@[simp] theorem ite_lifted (c : Prop) [Decidable c] (x y : ℝ) :
    (if c then lifted x else lifted y) = (lifted (if c then x else y) : α) :=
  (apply_ite lifted c x y).symm

@[simp] theorem pin_lifted (lo v hi : ℝ) :
    Scalar.pin (lifted lo) (lifted v) (lifted hi) = (lifted (Scalar.pin lo v hi) : α) := by
  simp only [Scalar.pin, lifted_lt, ite_lifted]

@[simp] theorem beq_lifted (x y : ℝ) : ((lifted x : α) == lifted y) = (Scalar.toBEq.beq x y) := by
  rw [Bool.eq_iff_iff, lifted_beq, Exact.beq_iff]

/-- The guarded division never divides by zero. -/
@[simp] theorem quotient_lifted (n d : ℝ) :
    Scalar.quotient (lifted n) (lifted d) = (lifted (Scalar.quotient n d) : α) := by
  unfold Scalar.quotient
  rw [literal_lifted, beq_lifted]
  split
  · rfl
  · next hd =>
    rw [Exact.beq_iff, Exact.literal_zero] at hd
    exact lifted_div n hd

/-! ## Angles -/

@[simp] theorem radians_lifted (d : ℝ) :
    Scalar.radians (lifted d) = (lifted (Scalar.radians d) : α) := by
  simp only [Scalar.radians, pi_lifted, literal_lifted, lifted_div_literal, lifted_mul]

@[simp] theorem degrees_lifted (r : ℝ) :
    Scalar.degrees (lifted r) = (lifted (Scalar.degrees r) : α) := by
  have hpi : (Scalar.pi : ℝ) ≠ 0 := Real.pi_ne_zero
  simp only [Scalar.degrees, pi_lifted, literal_lifted, lifted_div _ hpi, lifted_mul]

@[simp] theorem direction_lifted (x y : ℝ) :
    Scalar.direction (lifted x) (lifted y) = (lifted (Scalar.direction x y) : α) := by
  simp only [Scalar.direction, atan2_lifted, degrees_lifted]

@[simp] theorem isWhole_lifted (x : ℝ) : Scalar.isWhole (lifted x : α) = Scalar.isWhole x := by
  simp only [Scalar.isWhole, trunc_lifted, lifted_sub, literal_lifted, beq_lifted]

theorem remEuclid_lifted (x : ℝ) {m : ℝ} (hm : m ≠ 0) :
    Scalar.remEuclid (lifted x) (lifted m) = (lifted (Scalar.remEuclid x m) : α) := by
  simp only [Scalar.remEuclid, rem_lifted x hm, literal_lifted, lifted_lt, abs_lifted, lifted_add,
    ite_lifted]

section

-- literals are those that formulas have
attribute [local instance] Scalar.literal

@[simp] theorem remEuclid_lifted_literal (x : ℝ) (n : ℕ) [NeZero n] :
    Scalar.remEuclid (lifted x) (lifted (no_index (OfNat.ofNat n)))
      = (lifted (Scalar.remEuclid x (OfNat.ofNat n)) : α) :=
  remEuclid_lifted x (Nat.cast_ne_zero.mpr (NeZero.ne n))

end

@[simp] theorem sinCos_lifted (deg : ℝ) :
    sinCos (lifted deg : α) = (lifted (sinCos deg).1, lifted (sinCos deg).2) := by
  simp only [sinCos, literal_lifted, lifted_div_literal, isWhole_lifted, remEuclid_lifted_literal,
    beq_lifted, neg_lifted, radians_lifted, sin_lifted, cos_lifted]
  split_ifs <;> rfl

@[simp] theorem clockwiseSweep_lifted (start stop : ℝ) :
    clockwiseSweep (lifted start) (lifted stop) = (lifted (clockwiseSweep start stop) : α) := by
  simp only [clockwiseSweep, tolerance_lifted, literal_lifted, remEuclid_lifted_literal, lifted_sub,
    abs_lifted, lifted_lt, ite_lifted]

@[simp] theorem parametricAngle_lifted (deg rx ry : ℝ) :
    parametricAngle (lifted deg) (lifted rx) (lifted ry)
      = (lifted (parametricAngle deg rx ry) : α) := by
  simp only [parametricAngle, tolerance_lifted, literal_lifted, lifted_div_literal, sinCos_lifted,
    isWhole_lifted, lifted_sub, lifted_mul, lifted_add, abs_lifted, lifted_lt, lifted_le,
    atan2_lifted, degrees_lifted, round_lifted, ite_lifted]

end ShapeOutline
