import Mathlib
import ShapeOutline.Proofs.Exact

/-!
# Lengths in a drawing of another size

When a drawing is made larger, lengths grow with it, and what is read off several lengths grows with
them or stays as it is. The lemmas carry `grown` outwards through the operations of formulas, so that
an expression of grown lengths becomes the grown expression.

* `Ratio`, `grown`: how much larger, and a length in the larger drawing;
* `Exact.grown_add`, ..., `Exact.hypot_grown`: operations whose result grows with their arguments;
* `Exact.quotient_grown_grown`, `Exact.direction_grown`: shares and directions do not grow.
-/

namespace ShapeOutline

/-- How much larger one drawing is than another. -/
structure Ratio where
  value : ℝ
  pos : 0 < value

/-- A length of a drawing, in the one that is larger by a ratio. -/
def grown (r : Ratio) (x : ℝ) : ℝ := x * r.value

namespace Exact

-- literals are those that formulas have
attribute [local instance] Scalar.literal

variable (r : Ratio) (a b : ℝ)

@[simp] theorem grown_zero : grown r 0 = 0 := by
  rw [literal_zero]
  exact zero_mul _

/-! ## Sums, multiples and shares -/

@[simp] theorem grown_add : grown r a + grown r b = grown r (a + b) := (add_mul a b _).symm

@[simp] theorem grown_sub : grown r a - grown r b = grown r (a - b) := (sub_mul a b _).symm

@[simp] theorem neg_grown : -grown r a = grown r (-a) := (neg_mul a _).symm

@[simp] theorem grown_mul : grown r a * b = grown r (a * b) := mul_right_comm a _ b

@[simp] theorem mul_grown : a * grown r b = grown r (a * b) := (mul_assoc a b _).symm

@[simp] theorem grown_div : grown r a / b = grown r (a / b) := mul_div_right_comm a _ b

/-- The share of one length in another is the same at every size. -/
@[simp high] theorem quotient_grown_grown :
    Scalar.quotient (grown r a) (grown r b) = Scalar.quotient a b := by
  rw [quotient_eq, quotient_eq]
  exact mul_div_mul_right a b r.pos.ne'

@[simp low] theorem quotient_grown :
    Scalar.quotient (grown r a) b = grown r (Scalar.quotient a b) := by
  rw [quotient_eq, quotient_eq]
  exact grown_div r a b

/-! ## Comparisons -/

theorem grown_lt_grown : grown r a < grown r b ↔ a < b := mul_lt_mul_iff_left₀ r.pos

@[simp] theorem grown_pos : 0 < grown r a ↔ 0 < a := by
  have h := grown_lt_grown r 0 a
  rwa [grown_zero] at h

@[simp] theorem min_grown : Scalar.min (grown r a) (grown r b) = grown r (Scalar.min a b) :=
  (min_mul_of_nonneg a b r.pos.le).symm

@[simp] theorem max_grown : Scalar.max (grown r a) (grown r b) = grown r (Scalar.max a b) :=
  (max_mul_of_nonneg a b r.pos.le).symm

@[simp] theorem max_grown_zero : Scalar.max (grown r a) 0 = grown r (Scalar.max a 0) := by
  have h := max_grown r a 0
  rwa [grown_zero] at h

@[simp] theorem abs_grown : Scalar.abs (grown r a) = grown r (Scalar.abs a) := by
  show |a * r.value| = |a| * r.value
  rw [abs_mul, abs_of_pos r.pos]

theorem pin_mem_Icc {lo hi : ℝ} (h : lo ≤ hi) (v : ℝ) : Scalar.pin lo v hi ∈ Set.Icc lo hi := by
  unfold Scalar.pin
  split_ifs with hlo hhi
  · exact ⟨le_rfl, h⟩
  · exact ⟨h, le_rfl⟩
  · exact ⟨not_lt.mp hlo, not_lt.mp hhi⟩

/-! ## Choices -/

section

variable (c : Prop) [Decidable c]

@[simp] theorem ite_grown_grown :
    (if c then grown r a else grown r b) = grown r (if c then a else b) :=
  (apply_ite (grown r) c a b).symm

@[simp] theorem ite_zero_grown : (if c then 0 else grown r a) = grown r (if c then 0 else a) := by
  rw [← ite_grown_grown, grown_zero]

@[simp] theorem ite_grown_zero : (if c then grown r a else 0) = grown r (if c then a else 0) := by
  rw [← ite_grown_grown, grown_zero]

end

/-! ## Distances and directions -/

@[simp] theorem hypot_grown :
    Scalar.hypot (grown r a) (grown r b) = grown r (Scalar.hypot a b) := by
  have hsquares : a * r.value * (a * r.value) + b * r.value * (b * r.value)
      = (a * a + b * b) * (r.value * r.value) := by ring
  show √(a * r.value * (a * r.value) + b * r.value * (b * r.value)) = √(a * a + b * b) * r.value
  rw [hsquares, Real.sqrt_mul' _ (mul_self_nonneg _), Real.sqrt_mul_self r.pos.le]

@[simp] theorem direction_grown :
    Scalar.direction (grown r a) (grown r b) = Scalar.direction a b := by
  have hray : (⟨a * r.value, b * r.value⟩ : ℂ) = ⟨a, b⟩ * (r.value : ℂ) := by
    apply Complex.ext <;> simp
  show Scalar.degrees (Complex.arg ⟨a * r.value, b * r.value⟩) = Scalar.degrees (Complex.arg ⟨a, b⟩)
  rw [hray, Complex.arg_mul_real r.pos]

end Exact

end ShapeOutline
