import Mathlib
import ShapeOutline.Decimal.Significant
import ShapeOutline.Proofs.Decimal.Canonical
import ShapeOutline.Proofs.Exact

/-!
# The text of numbers

A number is rounded to six significant digits, and the decimal that is left is written without zeros that say
nothing. Rounding can carry into a new leading digit, and then the unit of the last digit is ten times what it
was; what is rounded is still a multiple of it. So a text that is read and written again stays as it is.

* `IsRounded`, `IsRounded.unique`: the multiple of a unit that is nearest to a number, halves away from zero;
* `Scalar.isRounded_significant`: the unit of the last significant digit;
* `Scalar.abs_significant_mem`, `Scalar.significant_significant`: what carries, and that nothing is left to be
  rounded;
* `Scalar.value_decimal`, `Scalar.decimal_value_decimal`: the decimal that is written;
* `Scalar.text_canonical`: the text of a number.
-/

namespace ShapeOutline

/-! ## Rounding to a grid -/

/-- The multiple of a unit that is nearest to a number; of two that are equally near, the one that is farther
from zero. -/
structure IsRounded (x unit v : ℝ) : Prop where
  multiple : ∃ k : ℤ, v = k * unit
  near : |x - v| ≤ unit / 2
  away : |x - v| = unit / 2 → |x| < |v|

namespace IsRounded

variable {x unit v w : ℝ}

theorem neg (h : IsRounded x unit v) : IsRounded (-x) unit (-v) := by
  have hdistance : |-x - -v| = |x - v| := by rw [neg_sub_neg, abs_sub_comm]
  obtain ⟨k, hk⟩ := h.multiple
  refine ⟨⟨-k, by rw [hk, Int.cast_neg, neg_mul]⟩, ?_, ?_⟩
  · rw [hdistance]
    exact h.near
  · rw [hdistance, abs_neg, abs_neg]
    exact h.away

/-- A multiple of the unit is not rounded. -/
theorem self (hunit : 0 < unit) (k : ℤ) : IsRounded (k * unit) unit (k * unit) := by
  refine ⟨⟨k, rfl⟩, ?_, ?_⟩
  · rw [sub_self, abs_zero]
    exact (half_pos hunit).le
  · intro htie
    rw [sub_self, abs_zero] at htie
    exact absurd htie (half_pos hunit).ne

/-- Multiples are a unit apart. -/
theorem multiple_add_le (hunit : 0 < unit) {j k : ℤ} (h : (j : ℝ) * unit < k * unit) :
    j * unit + unit ≤ k * unit := by
  have hlt : j < k := by exact_mod_cast lt_of_mul_lt_mul_right h hunit.le
  have hle : (j : ℝ) + 1 ≤ k := by exact_mod_cast hlt
  calc j * unit + unit = (j + 1) * unit := by ring
    _ ≤ k * unit := mul_le_mul_of_nonneg_right hle hunit.le

/-- Rounding does not go down past a multiple. -/
theorem multiple_le (h : IsRounded x unit v) (hunit : 0 < unit) {k : ℤ} (hk : k * unit ≤ x) :
    k * unit ≤ v := by
  by_contra hlt
  obtain ⟨j, rfl⟩ := h.multiple
  have hgap := multiple_add_le hunit (not_le.mp hlt)
  have hnear := (abs_le.mp h.near).2
  linarith

/-- Rounding does not go up past a multiple. -/
theorem le_multiple (h : IsRounded x unit v) (hunit : 0 < unit) {k : ℤ} (hk : x ≤ k * unit) :
    v ≤ k * unit := by
  have hneg : ((-k : ℤ) : ℝ) * unit ≤ -x := by
    push_cast
    linarith
  have hle := h.neg.multiple_le hunit hneg
  push_cast at hle
  linarith

/-- The magnitude is rounded to the rounded magnitude. -/
theorem abs (h : IsRounded x unit v) (hunit : 0 < unit) : IsRounded |x| unit |v| := by
  rcases le_total 0 x with hx | hx
  · have hv := h.multiple_le hunit (k := 0) (by simpa using hx)
    rw [Int.cast_zero, zero_mul] at hv
    rwa [abs_of_nonneg hx, abs_of_nonneg hv]
  · have hv := h.le_multiple hunit (k := 0) (by simpa using hx)
    rw [Int.cast_zero, zero_mul] at hv
    rw [abs_of_nonpos hx, abs_of_nonpos hv]
    exact h.neg

/-- A number that is not below zero is rounded down only as far as it has to be. -/
theorem le_of_nonneg (hx : 0 ≤ x) (h : IsRounded x unit v) (h' : IsRounded x unit w)
    (hunit : 0 < unit) : w ≤ v := by
  by_contra hlt
  have hv := h.multiple_le hunit (k := 0) (by simpa using hx)
  rw [Int.cast_zero, zero_mul] at hv
  obtain ⟨j, hj⟩ := h.multiple
  obtain ⟨k, hk⟩ := h'.multiple
  have hgap : v + unit ≤ w := by
    rw [hj, hk]
    refine multiple_add_le hunit ?_
    rw [← hj, ← hk]
    exact not_le.mp hlt
  -- the two are equally near, and the lower one is not the one farther from zero
  have hbelow := (abs_le.mp h.near).2
  have habove := (abs_le.mp h'.near).1
  have htie : |x - v| = unit / 2 := by
    rw [abs_of_nonneg (by linarith)]
    linarith
  have haway := h.away htie
  rw [abs_of_nonneg hx, abs_of_nonneg hv] at haway
  linarith

/-- There is one way to round. -/
theorem unique (h : IsRounded x unit v) (h' : IsRounded x unit w) (hunit : 0 < unit) : v = w := by
  rcases le_total 0 x with hx | hx
  · exact le_antisymm (le_of_nonneg hx h' h hunit) (le_of_nonneg hx h h' hunit)
  · have hneg : 0 ≤ -x := neg_nonneg.mpr hx
    exact neg_injective
      (le_antisymm (le_of_nonneg hneg h'.neg h.neg hunit) (le_of_nonneg hneg h.neg h'.neg hunit))

end IsRounded

namespace Exact

/-- Halves are rounded away from zero. -/
theorem abs_lt_abs_roundAway {x : ℝ} (h : |x - roundAway x| = 1 / 2) : |x| < |(roundAway x : ℝ)| := by
  unfold roundAway at h ⊢
  split at h
  · next hx =>
    have hlt := Int.lt_floor_add_one (x + 1 / 2)
    rcases eq_or_eq_neg_of_abs_eq h with hdown | hup
    · linarith
    · rw [if_pos hx, abs_of_nonneg hx, abs_of_nonneg (by linarith)]
      linarith
  · next hx =>
    have hlt := Int.ceil_lt_add_one (x - 1 / 2)
    have hneg := not_le.mp hx
    rcases eq_or_eq_neg_of_abs_eq h with hdown | hup
    · rw [if_neg hx, abs_of_neg hneg, abs_of_neg (by linarith)]
      linarith
    · linarith

/-- To round a number to a grid is to round the units that it has. -/
theorem isRounded_roundAway (x : ℝ) {unit : ℝ} (hunit : 0 < unit) :
    IsRounded x unit (roundAway (x / unit) * unit) := by
  have hunits : x / unit * unit = x := div_mul_cancel₀ x hunit.ne'
  have hdistance : |x - roundAway (x / unit) * unit| = |x / unit - roundAway (x / unit)| * unit := by
    rw [← abs_of_pos hunit, ← abs_mul, abs_of_pos hunit, sub_mul, hunits]
  refine ⟨⟨_, rfl⟩, ?_, ?_⟩
  · have hnear := mul_le_mul_of_nonneg_right (abs_sub_roundAway_le (x / unit)) hunit.le
    rw [hdistance]
    linarith
  · intro htie
    have htie' : |x / unit - roundAway (x / unit)| = 1 / 2 := by
      refine mul_right_cancel₀ hunit.ne' ?_
      rw [← hdistance, htie]
      ring
    have haway := mul_lt_mul_of_pos_right (abs_lt_abs_roundAway htie') hunit
    rwa [← abs_of_pos hunit, ← abs_mul, ← abs_mul, abs_of_pos hunit, hunits] at haway

theorem roundEven_intCast (k : ℤ) : roundEven k = k := by
  rw [roundEven, Int.fract_intCast, Int.floor_intCast, if_pos (.inl (by norm_num))]

end Exact

/-! ## Significant digits -/

namespace Scalar

variable {x : ℝ}

/-- The exponent of the leading digit is the whole part of the logarithm. -/
theorem magnitude_eq_floor (x : ℝ) : magnitude x = ⌊Real.logb 10 |x|⌋ := by
  have hfloor := Real.floor_logb_natCast (b := 10) (abs_nonneg x)
  exact hfloor.symm

theorem magnitude_spec (hx : x ≠ 0) :
    (10 : ℝ) ^ magnitude x ≤ |x| ∧ |x| < 10 ^ (magnitude x + 1) := by
  have hlo := Int.zpow_log_le_self (b := 10) (by norm_num) (abs_pos.mpr hx)
  have hhi := Int.lt_zpow_succ_log_self (b := 10) (by norm_num) |x|
  exact ⟨hlo, hhi⟩

theorem magnitude_eq {m : ℤ} (hlo : (10 : ℝ) ^ m ≤ |x|) (hhi : |x| < 10 ^ (m + 1)) :
    magnitude x = m := by
  have hx : x ≠ 0 := abs_pos.mp ((zpow_pos (by norm_num) m).trans_le hlo)
  obtain ⟨hlo', hhi'⟩ := magnitude_spec hx
  have hten : (1 : ℝ) < 10 := by norm_num
  have hle := (zpow_lt_zpow_iff_right₀ hten).mp (hlo.trans_lt hhi')
  have hge := (zpow_lt_zpow_iff_right₀ hten).mp (hlo'.trans_lt hhi)
  omega

/-- The unit of the last significant digit. -/
noncomputable def lastUnit (x : ℝ) : ℝ := 10 ^ (magnitude x - 5)

theorem lastUnit_pos (x : ℝ) : 0 < lastUnit x := zpow_pos (by norm_num) _

/-- A number is rounded to its significant digits. -/
theorem isRounded_significant (x : ℝ) : IsRounded x (lastUnit x) (significant x) := by
  have hscale : (powerOfTen (significantDigits - 1 - magnitude x) : ℝ) = (lastUnit x)⁻¹ := by
    show (10 : ℝ) ^ (6 - 1 - magnitude x) = _
    rw [lastUnit, ← zpow_neg]
    congr 1
    ring
  have heq : significant x = Exact.roundAway (x / lastUnit x) * lastUnit x := by
    unfold significant
    dsimp only
    rw [hscale, div_inv_eq_mul, ← div_eq_mul_inv]
    rfl
  rw [heq]
  exact Exact.isRounded_roundAway x (lastUnit_pos x)

/-- Powers of ten that are no smaller than the unit of the last digit are multiples of it. -/
theorem zpow_eq_multiple {m e : ℤ} (h : m - 5 ≤ e) :
    (10 : ℝ) ^ e = ((10 ^ (e - (m - 5)).toNat : ℤ) : ℝ) * 10 ^ (m - 5) := by
  have hexp : ((e - (m - 5)).toNat : ℤ) = e - (m - 5) := Int.toNat_of_nonneg (by omega)
  push_cast
  rw [← zpow_natCast, hexp, ← zpow_add₀ (by norm_num), sub_add_cancel]

/-- Rounding keeps the exponent of the leading digit, or carries up to the next power of ten. -/
theorem abs_significant_mem (hx : x ≠ 0) :
    (10 : ℝ) ^ magnitude x ≤ |significant x| ∧ |significant x| ≤ 10 ^ (magnitude x + 1) := by
  obtain ⟨hlo, hhi⟩ := magnitude_spec hx
  have habs := (isRounded_significant x).abs (lastUnit_pos x)
  have hlow := zpow_eq_multiple (m := magnitude x) (e := magnitude x) (by omega)
  have hhigh := zpow_eq_multiple (m := magnitude x) (e := magnitude x + 1) (by omega)
  rw [hlow] at hlo
  rw [hhigh] at hhi
  rw [hlow, hhigh]
  exact ⟨habs.multiple_le (lastUnit_pos x) hlo, habs.le_multiple (lastUnit_pos x) hhi.le⟩

/-- What is rounded to its significant digits has no others. -/
theorem significant_significant (hx : x ≠ 0) : significant (significant x) = significant x := by
  obtain ⟨hlo, hhi⟩ := abs_significant_mem hx
  have hagain := isRounded_significant (significant x)
  have hpos := lastUnit_pos (significant x)
  obtain ⟨k, hk⟩ : ∃ k : ℤ, significant x = k * lastUnit (significant x) := by
    rcases hhi.lt_or_eq with hlt | hcarry
    · -- the unit of the last digit is the same
      rw [lastUnit, magnitude_eq hlo hlt]
      exact (isRounded_significant x).multiple
    · -- a power of ten is a multiple of whatever its last digit stands for
      have hmagnitude : magnitude (significant x) = magnitude x + 1 := by
        refine magnitude_eq hcarry.ge ?_
        rw [hcarry]
        exact zpow_lt_zpow_right₀ (by norm_num) (by omega)
      rw [lastUnit, hmagnitude]
      obtain ⟨j, hj⟩ : ∃ j : ℤ, (10 : ℝ) ^ (magnitude x + 1) = j * 10 ^ (magnitude x + 1 - 5) :=
        ⟨_, zpow_eq_multiple (by omega)⟩
      rcases eq_or_eq_neg_of_abs_eq hcarry with hup | hdown
      · exact ⟨j, hup.trans hj⟩
      · exact ⟨-j, by rw [hdown, hj, Int.cast_neg, neg_mul]⟩
  have hself := IsRounded.self hpos k
  rw [← hk] at hself
  exact hagain.unique hself hpos

/-! ## The decimal that is written -/

theorem decimal_of_lt (hx : |x| < (tolerance : ℝ)) : decimal x = ⟨0, 0⟩ := by
  have hcond : (abs x < (tolerance : ℝ) || !isFinite x) = true := by
    rw [Bool.or_eq_true]
    exact .inl (decide_eq_true hx)
  exact if_pos hcond

theorem decimal_of_le (hx : (tolerance : ℝ) ≤ |x|) :
    decimal x = Decimal.reduce ⟨units (significantPlaces x) (significant x), significantPlaces x⟩ := by
  have hcond : ¬(abs x < (tolerance : ℝ) || !isFinite x) = true := by
    rw [Bool.or_eq_true, not_or]
    exact ⟨fun hlt => (of_decide_eq_true hlt).not_ge hx, Bool.false_ne_true⟩
  exact if_neg hcond

/-- The significant digits all stand in front of the last place that is written. -/
theorem value_units (x : ℝ) :
    ((units (significantPlaces x) (significant x) : ℤ) : ℝ)
      = significant x * 10 ^ significantPlaces x := by
  obtain ⟨k, hk⟩ := (isRounded_significant x).multiple
  have hplaces : significantPlaces x = (5 - magnitude x).toNat := by
    show (6 - 1 - magnitude x).toNat = _
    congr 1
  have hint : significant x * 10 ^ significantPlaces x
      = ((k * 10 ^ (magnitude x - 5).toNat : ℤ) : ℝ) := by
    have hexp : magnitude x - 5 + ((5 - magnitude x).toNat : ℤ) = ((magnitude x - 5).toNat : ℤ) := by
      omega
    rw [hk, hplaces, lastUnit, mul_assoc, ← zpow_natCast, ← zpow_add₀ (by norm_num), hexp, zpow_natCast]
    push_cast
    rfl
  show ((Exact.roundEven (significant x * 10 ^ significantPlaces x) : ℤ) : ℝ) = _
  rw [hint, Exact.roundEven_intCast]

/-- The decimal stands for the number, rounded to its significant digits. -/
theorem value_decimal (hx : (tolerance : ℝ) ≤ |x|) : (decimal x).value = significant x := by
  rw [decimal_of_le hx, Decimal.value_reduce, Decimal.value]
  dsimp only
  rw [value_units, mul_div_cancel_right₀ _ (by positivity)]

theorem isReduced_decimal (x : ℝ) : (decimal x).IsReduced := by
  by_cases hx : |x| < (tolerance : ℝ)
  · rw [decimal_of_lt hx]
    exact .inl rfl
  · rw [decimal_of_le (not_lt.mp hx)]
    exact Decimal.isReduced_reduce _

/-- A number that is written with digits is not rounded to one that is not. -/
theorem tolerance_le_abs_significant (hx : (tolerance : ℝ) ≤ |x|) :
    (tolerance : ℝ) ≤ |significant x| := by
  have htolerance : (tolerance : ℝ) = 10 ^ (-9 : ℤ) := by
    rw [tolerance_eq]
    norm_num
  have hne : x ≠ 0 := abs_pos.mp (tolerance_pos.trans_le hx)
  obtain ⟨-, hhi⟩ := magnitude_spec hne
  rw [htolerance] at hx ⊢
  have hexp : -9 < magnitude x + 1 := (zpow_lt_zpow_iff_right₀ (by norm_num)).mp (hx.trans_lt hhi)
  calc (10 : ℝ) ^ (-9 : ℤ) ≤ 10 ^ magnitude x := zpow_le_zpow_right₀ (by norm_num) (by omega)
    _ ≤ |significant x| := (abs_significant_mem hne).1

/-- The value of the decimal is written as the decimal. -/
theorem decimal_value_decimal (x : ℝ) : decimal (decimal x).value = decimal x := by
  by_cases hx : |x| < (tolerance : ℝ)
  · have hzero : (decimal x).value = 0 := by
      rw [decimal_of_lt hx, Decimal.value, Int.cast_zero, zero_div]
    rw [hzero, decimal_of_lt hx]
    refine decimal_of_lt ?_
    rw [abs_zero]
    exact tolerance_pos
  · have hle := not_lt.mp hx
    have hne : x ≠ 0 := abs_pos.mp (tolerance_pos.trans_le hle)
    refine (isReduced_decimal _).eq_of_value_eq (isReduced_decimal x) ?_
    rw [value_decimal hle, value_decimal (tolerance_le_abs_significant hle), significant_significant hne]

/-- The text of a number is that of one numeral, from which nothing can be left out. It is zero below the
tolerance, and otherwise stands for the number, rounded to a multiple of the unit of its sixth digit, halves
away from zero. The number that it stands for has the same text. -/
theorem text_canonical (x : ℝ) :
    ∃ n : Numeral, (∀ m : Numeral, text x = String.ofList m.chars ↔ m = n) ∧ n.IsCanonical ∧
      (|x| < (tolerance : ℝ) → text x = "0") ∧
      ((tolerance : ℝ) ≤ |x| → IsRounded x (10 ^ (⌊Real.logb 10 |x|⌋ - 5)) n.value) ∧
      text (n.value : ℝ) = text x := by
  have hchars : (decimal x).numeral.chars = chars x := (decimal x).chars_numeral
  refine ⟨(decimal x).numeral, fun m => ?_, (isReduced_decimal x).isCanonical_numeral, fun hx => ?_,
    fun hx => ?_, ?_⟩
  · rw [text, String.ofList_inj, ← hchars, Numeral.chars_injective.eq_iff, eq_comm]
  · rw [text, chars, decimal_of_lt hx]
    rfl
  · rw [Decimal.value_numeral, value_decimal hx, ← magnitude_eq_floor]
    exact isRounded_significant x
  · rw [Decimal.value_numeral, text, text, chars, chars, decimal_value_decimal]

/-- Two thirds are rounded up in the sixth place, and what is far below the tolerance is written as zero. -/
theorem text_canonical_two_thirds :
    (tolerance : ℝ) ≤ |2 / 3| ∧ text (2 / 3 : ℝ) = "0.666667" ∧
      text (666667 / 1000000 : ℝ) = "0.666667" ∧ |(1e-12 : ℝ)| < (tolerance : ℝ) ∧
      text (1e-12 : ℝ) = "0" := by
  have hlarge : (tolerance : ℝ) ≤ |2 / 3| := by
    rw [tolerance_eq]
    norm_num
  have hsmall : |(1e-12 : ℝ)| < (tolerance : ℝ) := by
    rw [tolerance_eq]
    norm_num
  obtain ⟨n, htext, hcanonical, -, hrounded, hagain⟩ := text_canonical (2 / 3)
  obtain ⟨-, -, -, hzero, -⟩ := text_canonical 1e-12
  have hmagnitude : ⌊Real.logb 10 |(2 / 3 : ℝ)|⌋ = -1 := by
    rw [← magnitude_eq_floor]
    exact magnitude_eq (by norm_num) (by norm_num)
  have hnearest : IsRounded (2 / 3) (10 ^ (-1 - 5 : ℤ)) (666667 / 1000000) := by
    refine ⟨⟨666667, by norm_num⟩, ?_, ?_⟩ <;> norm_num
  have hvalue : n.value = (666667 / 1000000 : ℝ) := by
    have hrounded' := hrounded hlarge
    rw [hmagnitude] at hrounded'
    exact hrounded'.unique hnearest (by norm_num)
  let d : Decimal := ⟨666667, 6⟩
  have hreduced : d.IsReduced := .inr (by decide)
  have hdvalue : d.value = 666667 / 1000000 := by
    rw [Decimal.value]
    norm_num [d]
  have hdchars : String.ofList (⟨666667, 6⟩ : Decimal).chars = "0.666667" := by decide +kernel
  have hn : n = d.numeral := by
    refine hcanonical.eq_of_value_eq hreduced.isCanonical_numeral ?_
    rw [hvalue, Decimal.value_numeral, hdvalue]
  have hwritten : text (2 / 3 : ℝ) = "0.666667" := by
    rw [(htext n).mpr rfl, hn, Decimal.chars_numeral]
    exact hdchars
  rw [hvalue] at hagain
  exact ⟨hlarge, hwritten, hagain.trans hwritten, hsmall, hzero hsmall⟩

end Scalar

end ShapeOutline
