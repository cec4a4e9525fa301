import Mathlib
import ShapeOutline.Arc

/-!
# Exact arithmetic

The real numbers as a type of scalars: what the formulas mean when nothing is rounded. A quotient by
zero is zero here, and every number is finite.

* `Exact.scalar`: the operations;
* `Exact.abs_sub_roundAway_le`: rounding moves a number by at most a half;
* `Scalar.remEuclid_eq`: the remainder is what is left above the last multiple;
* `sinCos_eq`: the shortcut on the axes gives the true sine and cosine;
* `sinCos_neg`, `sinCos_half_turn_sub`, `sinCos_quarter_turn_sub`: how reflections change them.
-/

namespace ShapeOutline

namespace Exact

/-- What the literal `2` rests on, by name: a definition that has the literal is then the same term in
whatever order modules are read. -/
instance atLeastTwo_two : Nat.AtLeastTwo 2 := ⟨le_rfl⟩

/-- The same for `10`. -/
instance atLeastTwo_ten : Nat.AtLeastTwo 10 := ⟨by decide⟩

/-- The same for `100000`, of which guides are shares. -/
instance atLeastTwo_hundredThousand : Nat.AtLeastTwo 100000 := ⟨by decide⟩

/-- The same for `60000`, in which angles are counted. -/
instance atLeastTwo_sixtyThousand : Nat.AtLeastTwo 60000 := ⟨by decide⟩

/-- The same for the directions of the axes and for a full turn. -/
instance atLeastTwo_ninety : Nat.AtLeastTwo 90 := ⟨by decide⟩

instance atLeastTwo_hundredEighty : Nat.AtLeastTwo 180 := ⟨by decide⟩

instance atLeastTwo_twoHundredSeventy : Nat.AtLeastTwo 270 := ⟨by decide⟩

instance atLeastTwo_threeHundredSixty : Nat.AtLeastTwo 360 := ⟨by decide⟩

/-- The whole part of a number, counted towards zero. -/
noncomputable def truncate (x : ℝ) : ℤ := if 0 ≤ x then ⌊x⌋ else ⌈x⌉

/-- The nearest integer, halves away from zero. -/
noncomputable def roundAway (x : ℝ) : ℤ := if 0 ≤ x then ⌊x + 1 / 2⌋ else ⌈x - 1 / 2⌉

/-- The nearest integer, halves to the even neighbour. -/
noncomputable def roundEven (x : ℝ) : ℤ :=
  if Int.fract x < 1 / 2 ∨ Int.fract x = 1 / 2 ∧ Even ⌊x⌋ then ⌊x⌋ else ⌊x⌋ + 1

noncomputable instance scalar : Scalar ℝ where
  beq x y := decide (x = y)
  ofNat n := n
  ofScientific m negative e := OfScientific.ofScientific m negative e
  pi := Real.pi
  abs x := |x|
  min := min
  max := max
  sqrt := Real.sqrt
  hypot x y := Real.sqrt (x * x + y * y)
  sin := Real.sin
  cos := Real.cos
  tan := Real.tan
  atan2 y x := Complex.arg ⟨x, y⟩
  round x := roundAway x
  trunc x := truncate x
  rem x m := x - m * truncate (x / m)
  isFinite _ := true
  isNaN _ := false
  ltDecidable _ _ := inferInstance
  leDecidable _ _ := inferInstance
  magnitude x := Int.log 10 |x|
  powerOfTen e := 10 ^ e
  units places x := roundEven (x * 10 ^ places)

/-- A literal of a formula is the number it names. -/
theorem literal_eq (n : ℕ) : @OfNat.ofNat ℝ n (Scalar.literal n) = (n : ℝ) := rfl

theorem literal_zero : @OfNat.ofNat ℝ 0 (Scalar.literal 0) = 0 := Nat.cast_zero

theorem literal_one : @OfNat.ofNat ℝ 1 (Scalar.literal 1) = 1 := Nat.cast_one

theorem literal_ofNat (n : ℕ) [n.AtLeastTwo] :
    @OfNat.ofNat ℝ n (Scalar.literal n) = (OfNat.ofNat n : ℝ) := Nat.cast_ofNat

theorem ofInt_eq (z : ℤ) : (Scalar.ofInt z : ℝ) = z := by
  cases z with
  | ofNat n => exact (Int.cast_natCast n).symm
  | negSucc n => exact (Int.cast_negSucc n).symm

/-- Formulas compare numbers for equality exactly. -/
theorem beq_iff (x y : ℝ) : (Scalar.toBEq.beq x y) = true ↔ x = y := decide_eq_true_iff

/-- A division by zero gives zero, as quotients of guides do. -/
theorem quotient_eq (n d : ℝ) : Scalar.quotient n d = n / d := by
  unfold Scalar.quotient
  rw [literal_zero]
  split
  · next hzero => rw [(beq_iff d 0).mp hzero, div_zero]
  · rfl

/-- Cutting off the fraction changes a number by less than one. -/
theorem abs_sub_truncate_lt (x : ℝ) : |x - truncate x| < 1 := by
  unfold truncate
  rw [abs_lt]
  split
  · have hle := Int.floor_le x
    have hlt := Int.lt_floor_add_one x
    constructor <;> linarith
  · have hle := Int.le_ceil x
    have hlt := Int.ceil_lt_add_one x
    constructor <;> linarith

/-- Rounding moves a number by at most a half. -/
theorem abs_sub_roundAway_le (x : ℝ) : |x - roundAway x| ≤ 1 / 2 := by
  unfold roundAway
  rw [abs_le]
  split
  · have hle := Int.floor_le (x + 1 / 2)
    have hlt := Int.lt_floor_add_one (x + 1 / 2)
    constructor <;> linarith
  · have hle := Int.le_ceil (x - 1 / 2)
    have hlt := Int.ceil_lt_add_one (x - 1 / 2)
    constructor <;> linarith

end Exact

namespace Scalar

theorem tolerance_eq : (tolerance : ℝ) = 1e-9 := rfl

theorem tolerance_pos : 0 < (tolerance : ℝ) := by
  rw [tolerance_eq]
  norm_num

/-- A number without a fraction is an integer. -/
theorem exists_int_of_isWhole {x : ℝ} (h : isWhole x = true) : ∃ n : ℤ, x = n := by
  have heq : x - (Exact.truncate x : ℝ) = 0 := by
    have := of_decide_eq_true h
    rwa [Exact.literal_zero] at this
  exact ⟨Exact.truncate x, sub_eq_zero.mp heq⟩

/-- The remainder by a positive number is what is left above the last multiple of it. -/
theorem remEuclid_eq {x m : ℝ} (hm : 0 < m) : remEuclid x m = x - m * ⌊x / m⌋ := by
  have hx : m * (x / m) = x := mul_div_cancel₀ x hm.ne'
  obtain ⟨hlo, hhi⟩ := abs_lt.mp (Exact.abs_sub_truncate_lt (x / m))
  unfold remEuclid
  show (if x - m * (Exact.truncate (x / m) : ℝ) < @OfNat.ofNat ℝ 0 (Scalar.literal 0)
    then x - m * (Exact.truncate (x / m) : ℝ) + |m| else x - m * (Exact.truncate (x / m) : ℝ)) = _
  rw [Exact.literal_zero, abs_of_pos hm]
  generalize Exact.truncate (x / m) = k at hlo hhi ⊢
  split
  · next hneg =>
    -- below zero the whole part lies one above the floor
    have hlt : x / m < k := (div_lt_iff₀' hm).mpr (by linarith)
    have hfloor : ⌊x / m⌋ = k - 1 := by
      rw [Int.floor_eq_iff]
      push_cast
      constructor <;> linarith
    rw [hfloor]
    push_cast
    ring
  · next hnonneg =>
    have hle : k ≤ x / m := (le_div_iff₀' hm).mpr (by linarith)
    have hfloor : ⌊x / m⌋ = k := Int.floor_eq_iff.mpr ⟨hle, by linarith⟩
    rw [hfloor]

end Scalar

/-! ## Sine and cosine -/

/-- An angle of whole quarter turns has the sine and the cosine of its quarters within one turn. -/
private theorem sin_cos_quarters (n : ℤ) :
    Real.sin (n * (Real.pi / 2)) = Real.sin ((n % 4 : ℤ) * (Real.pi / 2)) ∧
      Real.cos (n * (Real.pi / 2)) = Real.cos ((n % 4 : ℤ) * (Real.pi / 2)) := by
  have hn : (n : ℝ) = (n % 4 : ℤ) + 4 * (n / 4 : ℤ) := by exact_mod_cast (Int.emod_add_mul_ediv n 4).symm
  have hsplit : (n : ℝ) * (Real.pi / 2)
      = (n % 4 : ℤ) * (Real.pi / 2) + (n / 4 : ℤ) * (2 * Real.pi) := by
    rw [hn]
    ring
  rw [hsplit, Real.sin_add_int_mul_two_pi, Real.cos_add_int_mul_two_pi]
  exact ⟨rfl, rfl⟩

/-- Within one turn, the quarters of a whole number are counted by its remainder. -/
private theorem remEuclid_four (n : ℤ) :
    Scalar.remEuclid (n : ℝ) (@OfNat.ofNat ℝ 4 (Scalar.literal 4)) = (n % 4 : ℤ) := by
  rw [Exact.literal_eq, Scalar.remEuclid_eq (by norm_num)]
  have hfloor : ⌊(n : ℝ) / (4 : ℕ)⌋ = n / 4 := by
    rw [Int.floor_eq_iff, le_div_iff₀ (by norm_num), div_lt_iff₀ (by norm_num)]
    constructor <;> norm_cast <;> omega
  rw [hfloor, Int.emod_def]
  push_cast
  ring

/-- The shortcut on the axes gives the true sine and cosine. -/
theorem sinCos_eq (deg : ℝ) :
    sinCos deg = (Real.sin (deg * (Real.pi / 180)), Real.cos (deg * (Real.pi / 180))) := by
  unfold sinCos
  dsimp only
  split
  · next hwhole =>
    obtain ⟨n, hn⟩ := Scalar.exists_int_of_isWhole hwhole
    have hdeg : deg * (Real.pi / 180) = n * (Real.pi / 2) := by
      rw [← hn, Exact.literal_eq]
      push_cast
      ring
    -- only the quarters within one turn count, on both sides
    obtain ⟨hsin, hcos⟩ := sin_cos_quarters n
    rw [hn, remEuclid_four, hdeg, hsin, hcos]
    have hlo := Int.emod_nonneg n (b := 4) (by norm_num)
    have hhi := Int.emod_lt_of_pos n (b := 4) (by norm_num)
    generalize n % 4 = r at hlo hhi ⊢
    simp only [Exact.beq_iff, Exact.literal_eq]
    have htwo : 2 * (Real.pi / 2) = Real.pi := by ring
    have hthree : 3 * (Real.pi / 2) = Real.pi / 2 + Real.pi := by ring
    have hquarter : r = 0 ∨ r = 1 ∨ r = 2 ∨ r = 3 := by omega
    -- the table of the shortcut, one direction of the axes after the other
    rcases hquarter with rfl | rfl | rfl | rfl
    · norm_num
    · norm_num
    · push_cast
      rw [htwo, Real.sin_pi, Real.cos_pi]
      norm_num
    · push_cast
      rw [hthree, Real.sin_add_pi, Real.cos_add_pi, Real.sin_pi_div_two, Real.cos_pi_div_two]
      norm_num
  · rfl

/-- The opposite angle has the opposite sine. -/
theorem sinCos_neg (deg : ℝ) : sinCos (-deg) = (-(sinCos deg).1, (sinCos deg).2) := by
  rw [sinCos_eq, sinCos_eq, neg_mul, Real.sin_neg, Real.cos_neg]

/-- The angle that fills a half turn has the opposite cosine. -/
theorem sinCos_half_turn_sub (deg : ℝ) :
    sinCos (180 - deg) = ((sinCos deg).1, -(sinCos deg).2) := by
  have hangle : (180 - deg) * (Real.pi / 180) = Real.pi - deg * (Real.pi / 180) := by ring
  rw [sinCos_eq, sinCos_eq, hangle, Real.sin_pi_sub, Real.cos_pi_sub]

/-- The angle that fills a quarter turn has sine and cosine exchanged. -/
theorem sinCos_quarter_turn_sub (deg : ℝ) :
    sinCos (90 - deg) = ((sinCos deg).2, (sinCos deg).1) := by
  have hangle : (90 - deg) * (Real.pi / 180) = Real.pi / 2 - deg * (Real.pi / 180) := by ring
  rw [sinCos_eq, sinCos_eq, hangle, Real.sin_pi_div_two_sub, Real.cos_pi_div_two_sub]

end ShapeOutline
