import Mathlib
import ShapeOutline.Decimal
import ShapeOutline.Proofs.Guide.Operands

/-!
# The written form of decimals

A number may be written with zeros at either end that say nothing. Without them, and without a sign in front
of zero, one numeral is left for each value. It is what is written for a decimal once the zeros at its end are
removed.

* `digitsValue_lt`, `eq_of_digitsValue_eq`, `NoZeroInFront`: digits are known by their number and their value,
  or by their value when no zero stands in front;
* `Decimal.value`, `Decimal.IsReduced`: the number that a decimal stands for, and decimals without places that
  they do not need;
* `Numeral.chars_injective`: a numeral is read off its text;
* `Numeral.IsCanonical`, `Numeral.IsCanonical.eq_of_value_eq`: the one numeral of a value;
* `Decimal.numeral`, `Decimal.IsReduced.isCanonical_numeral`: what is written for a decimal.
-/

namespace ShapeOutline

/-! ## Digits -/

theorem digitsValue_concat (front : List Char) (c : Char) :
    digitsValue (front ++ [c]) = (c.toNat - '0'.toNat) + 10 * digitsValue front := by
  have hlast : digitsValue [c] = c.toNat - '0'.toNat := Nat.ofDigits_singleton
  rw [digitsValue_append, hlast, List.length_singleton, pow_one]

theorem digitsValue_cons (c : Char) (back : List Char) :
    digitsValue (c :: back) = digitsValue back + 10 ^ back.length * (c.toNat - '0'.toNat) := by
  have hfirst : digitsValue [c] = c.toNat - '0'.toNat := Nat.ofDigits_singleton
  rw [← List.singleton_append, digitsValue_append, hfirst]

theorem digitsValue_lt {digits : List Char} (h : ∀ c ∈ digits, c.isDigit = true) :
    digitsValue digits < 10 ^ digits.length := by
  have hdigit : ∀ d ∈ digits.reverse.map fun c => c.toNat - '0'.toNat, d < 10 := by
    refine List.forall_mem_map.mpr fun c hc => ?_
    have hrange := Char.isDigit_iff_toNat.mp (h c (List.mem_reverse.mp hc))
    have hzero : '0'.toNat = 48 := rfl
    have hnine : '9'.toNat = 57 := rfl
    omega
  have hlt := Nat.ofDigits_lt_base_pow_length (by norm_num) hdigit
  rwa [List.length_map, List.length_reverse] at hlt

/-- Equally many digits of one value are the same digits. -/
theorem eq_of_digitsValue_eq {xs ys : List Char} (hxs : ∀ c ∈ xs, c.isDigit = true)
    (hys : ∀ c ∈ ys, c.isDigit = true) (hlength : xs.length = ys.length)
    (h : digitsValue xs = digitsValue ys) : xs = ys := by
  induction xs using List.reverseRecOn generalizing ys with
  | nil => exact (List.length_eq_zero_iff.mp hlength.symm).symm
  | append_singleton xs c ih =>
    obtain rfl | ⟨ys, d, rfl⟩ := List.eq_nil_or_concat ys
    · simp at hlength
    · rw [List.concat_eq_append] at *
      obtain ⟨hxs, hc⟩ := List.forall_mem_append.mp hxs
      obtain ⟨hys, hd⟩ := List.forall_mem_append.mp hys
      rw [List.forall_mem_singleton, Char.isDigit_iff_toNat] at hc hd
      rw [digitsValue_concat, digitsValue_concat] at h
      have hzero : '0'.toNat = 48 := rfl
      have hnine : '9'.toNat = 57 := rfl
      have hlast : c.toNat = d.toNat := by omega
      have hfront : digitsValue xs = digitsValue ys := by omega
      have hlength' : xs.length = ys.length := by simpa using hlength
      rw [ih hxs hys hlength' hfront, Char.toNat_inj.mp hlast]

/-- Digits without a zero in front reach the place of the first one. -/
theorem le_digitsValue {c : Char} {back : List Char} (hc : c.isDigit = true) (hzero : c ≠ '0') :
    10 ^ back.length ≤ digitsValue (c :: back) := by
  have hrange := Char.isDigit_iff_toNat.mp hc
  have hne : c.toNat ≠ '0'.toNat := mt Char.toNat_inj.mp hzero
  have hpos : 1 ≤ c.toNat - '0'.toNat := by omega
  rw [digitsValue_cons]
  exact (Nat.le_mul_of_pos_right _ hpos).trans (Nat.le_add_left _ _)

/-- Digits have no zero in front, unless they are a single zero. -/
def NoZeroInFront (digits : List Char) : Prop := digits.head? = some '0' → digits = ['0']

/-- Digits without a zero in front are no more than other digits of their value. -/
theorem NoZeroInFront.length_le {xs ys : List Char} (hzero : NoZeroInFront xs)
    (hxs : ∀ c ∈ xs, c.isDigit = true) (hys : ∀ c ∈ ys, c.isDigit = true) (hne : ys ≠ [])
    (h : digitsValue xs = digitsValue ys) : xs.length ≤ ys.length := by
  have hsome : 1 ≤ ys.length := List.length_pos_of_ne_nil hne
  cases xs with
  | nil => exact Nat.zero_le _
  | cons c back =>
    by_cases hc : c = '0'
    · rw [hzero (congrArg some hc)]
      exact hsome
    · have hlo : 10 ^ back.length ≤ digitsValue (c :: back) :=
        le_digitsValue (hxs c List.mem_cons_self) hc
      have hhi := digitsValue_lt hys
      rw [← h] at hhi
      exact (Nat.pow_lt_pow_iff_right (by norm_num)).mp (hlo.trans_lt hhi)

/-- Digits without a zero in front are known by their value. -/
theorem NoZeroInFront.eq_of_digitsValue_eq {xs ys : List Char} (hxzero : NoZeroInFront xs)
    (hyzero : NoZeroInFront ys) (hxs : ∀ c ∈ xs, c.isDigit = true)
    (hys : ∀ c ∈ ys, c.isDigit = true) (hxne : xs ≠ []) (hyne : ys ≠ [])
    (h : digitsValue xs = digitsValue ys) : xs = ys :=
  ShapeOutline.eq_of_digitsValue_eq hxs hys
    (le_antisymm (hxzero.length_le hxs hys hyne h) (hyzero.length_le hys hxs hxne h.symm)) h

/-! ## Written digits -/

namespace Decimal

theorem digitsValue_toDigits (n : ℕ) : digitsValue (Nat.toDigits 10 n) = n := by
  rw [digitsValue_eq_foldl]
  exact Nat.ofDigitChars_toDigits (by norm_num) le_rfl

theorem digitsValue_zeros (k : ℕ) : digitsValue (List.replicate k '0') = 0 := by
  induction k with
  | zero => rfl
  | succ k ih =>
    rw [List.replicate_succ', digitsValue_append, ih]
    rfl

/-- Zeros in front do not change the value of digits. -/
theorem digitsValue_padded (width n : ℕ) : digitsValue (padded width n) = n := by
  rw [padded, digitsValue_append, digitsValue_zeros, digitsValue_toDigits, mul_zero, add_zero]

theorem length_padded {width n : ℕ} (hwidth : 0 < width) (hn : n < 10 ^ width) :
    (padded width n).length = width := by
  have hfits : (Nat.toDigits 10 n).length ≤ width :=
    (Nat.length_toDigits_le_iff (by norm_num) hwidth).mpr hn
  rw [padded, List.length_append, List.length_replicate, Nat.sub_add_cancel hfits]

/-- The last digit is the remainder by ten. -/
theorem getLast?_toDigits (n : ℕ) : (Nat.toDigits 10 n).getLast? = some (n % 10).digitChar := by
  by_cases hn : n < 10
  · rw [Nat.toDigits_of_lt_base hn, Nat.mod_eq_of_lt hn]
    rfl
  · rw [Nat.toDigits_of_base_le (by norm_num) (not_lt.mp hn), List.getLast?_concat]

theorem digitChar_eq_zero_iff {d : ℕ} (hd : d < 10) : d.digitChar = '0' ↔ d = 0 := by
  interval_cases d <;> decide

/-- Only the digits of zero begin with zero. -/
theorem eq_zero_of_head?_toDigits {n : ℕ} (h : (Nat.toDigits 10 n).head? = some '0') : n = 0 := by
  induction n using Nat.strong_induction_on with
  | _ n ih =>
    by_cases hn : n < 10
    · rw [Nat.toDigits_of_lt_base hn] at h
      exact (digitChar_eq_zero_iff hn).mp (Option.some.inj h)
    · -- the digits of the tens begin as those of the number
      have htens : 10 ≤ n := not_lt.mp hn
      rw [Nat.toDigits_of_base_le (by norm_num) htens,
        List.head?_append_of_ne_nil _ (List.ne_nil_of_length_pos Nat.length_toDigits_pos)] at h
      have hzero := ih (n / 10) (by omega) h
      omega

/-! ## Reduced decimals -/

/-- The number that a decimal stands for. -/
noncomputable def value (d : Decimal) : ℝ := d.units / 10 ^ d.places

/-- The decimal has no more places than it needs. -/
def IsReduced (d : Decimal) : Prop := d.places = 0 ∨ ¬10 ∣ d.units

theorem value_reduced (units : ℤ) (places : ℕ) :
    (reduced units places).value = units / 10 ^ places := by
  induction places generalizing units with
  | zero => rfl
  | succ places ih =>
    rw [reduced]
    split
    · next hzero =>
      obtain ⟨tens, rfl⟩ := Int.dvd_of_emod_eq_zero hzero
      rw [ih, Int.mul_ediv_cancel_left _ (by norm_num), pow_succ']
      push_cast
      rw [mul_div_mul_left _ _ (by norm_num)]
    · rfl

theorem isReduced_reduced (units : ℤ) (places : ℕ) : (reduced units places).IsReduced := by
  induction places generalizing units with
  | zero => exact .inl rfl
  | succ places ih =>
    rw [reduced]
    split
    · exact ih _
    · next hdigit => exact .inr (mt Int.emod_eq_zero_of_dvd hdigit)

/-- Reduced decimals of one value have equally many places: with fewer, the units of the other one would
end with a zero. -/
theorem IsReduced.places_le {d e : Decimal} (he : e.IsReduced) (h : d.value = e.value) :
    e.places ≤ d.places := by
  by_contra hmore
  have hlt := not_le.mp hmore
  have hpow : (10 : ℝ) ^ e.places = 10 ^ d.places * 10 ^ (e.places - d.places) := by
    rw [← pow_add, Nat.add_sub_cancel' hlt.le]
  have hunits : (e.units : ℝ) = d.units * 10 ^ (e.places - d.places) := by
    rw [value, value, div_eq_div_iff (by positivity) (by positivity), hpow] at h
    refine mul_left_cancel₀ (pow_ne_zero d.places (by norm_num : (10 : ℝ) ≠ 0)) ?_
    linarith
  have hunits' : e.units = d.units * 10 ^ (e.places - d.places) := by exact_mod_cast hunits
  rcases he with hplaces | hdigit
  · omega
  · refine hdigit (hunits' ▸ Dvd.dvd.mul_left (dvd_pow_self 10 ?_) _)
    omega

/-- A reduced decimal is known by its value. -/
theorem IsReduced.eq_of_value_eq {d e : Decimal} (hd : d.IsReduced) (he : e.IsReduced)
    (h : d.value = e.value) : d = e := by
  have hplaces : d.places = e.places := le_antisymm (hd.places_le h.symm) (he.places_le h)
  obtain ⟨units, places⟩ := d
  obtain ⟨units', places'⟩ := e
  obtain rfl : places = places' := hplaces
  have hpow : (10 : ℝ) ^ places ≠ 0 := by positivity
  have hunits : (units : ℝ) = units' := (div_left_inj' hpow).mp h
  rw [Int.cast_inj.mp hunits]

theorem value_reduce (d : Decimal) : d.reduce.value = d.value := value_reduced d.units d.places

theorem isReduced_reduce (d : Decimal) : d.reduce.IsReduced := isReduced_reduced d.units d.places

end Decimal

/-! ## Canonical numerals -/

theorem Sign.char_injective : Function.Injective Sign.char := by
  intro s t h
  cases s <;> cases t <;> first | rfl | exact absurd h (by decide)

namespace Numeral

variable {n m : Numeral}

theorem eq_of_parts (hsign : n.sign = m.sign) (hwhole : n.whole = m.whole)
    (hfraction : n.fraction = m.fraction) : n = m := by
  cases n
  cases m
  obtain rfl := hsign
  obtain rfl := hwhole
  obtain rfl := hfraction
  rfl

/-- A numeral is read off its text. -/
theorem chars_injective : Function.Injective chars := by
  intro n m h
  have hread (k : Numeral) : Formula.number? k.chars = some (k.parts, []) := by
    have happend : Formula.number? (k.chars ++ []) = some (k.parts, []) :=
      k.number?_append fun c hc => nomatch hc
    rwa [List.append_nil] at happend
  have hparts : n.parts = m.parts := by
    have hn := hread n
    rw [h, hread m] at hn
    exact (congrArg Prod.fst (Option.some.inj hn)).symm
  have hsign : n.sign = m.sign := by
    have hchars : n.signChars.head? = m.signChars.head? :=
      congrArg (fun parts => parts.sign.head?) hparts
    rw [signChars, signChars, List.head?_map, List.head?_map, Option.head?_toList,
      Option.head?_toList] at hchars
    exact Option.map_injective Sign.char_injective hchars
  have hfraction : n.fraction = m.fraction := by
    rw [← n.drop_fractionChars, ← m.drop_fractionChars]
    exact congrArg (List.drop 1) (congrArg Formula.NumberText.fraction hparts)
  exact eq_of_parts hsign (congrArg Formula.NumberText.whole hparts) hfraction

/-- Nothing of the numeral can be left out: it has no sign but that of a number below zero, no zero in front
of other digits of the whole part and no zero at the end of the fraction. -/
structure IsCanonical (n : Numeral) : Prop where
  sign : n.sign = none ∨ n.sign = some .minus ∧ (n.value : ℝ) < 0
  whole : NoZeroInFront n.whole
  fraction : n.fraction.getLast? ≠ some '0'

/-- The decimal with as many places as a numeral has. -/
def decimal (n : Numeral) : Decimal where
  units := (if n.sign = some .minus then -1 else 1) * digitsValue (n.whole ++ n.fraction)
  places := n.fraction.length

theorem value_decimal (n : Numeral) : n.decimal.value = n.value := by
  rw [value_eq, Decimal.value, decimal, digitsValue_append]
  push_cast
  field_simp
  ring

theorem value_nonneg (h : n.sign = none) : 0 ≤ (n.value : ℝ) := by
  rw [value_eq, h, if_neg (by decide), one_mul]
  positivity

/-- Behind the point of a canonical numeral are no more places than it needs. -/
theorem IsCanonical.isReduced (h : n.IsCanonical) : n.decimal.IsReduced := by
  have hlast := h.fraction
  obtain hnone | ⟨front, c, hfraction⟩ := List.eq_nil_or_concat n.fraction
  · exact .inl (List.length_eq_zero_iff.mpr hnone)
  · right
    rw [List.concat_eq_append] at hfraction
    have hdigit := n.isDigit_fraction
    rw [hfraction, List.getLast?_concat, ne_eq, Option.some.injEq] at hlast
    rw [hfraction] at hdigit
    have hc := Char.isDigit_iff_toNat.mp (hdigit c List.mem_concat_self)
    have hne : c.toNat ≠ '0'.toNat := mt Char.toNat_inj.mp hlast
    have hzero : '0'.toNat = 48 := rfl
    have hnine : '9'.toNat = 57 := rfl
    show ¬(10 : ℤ) ∣ _ * (digitsValue (n.whole ++ n.fraction) : ℕ)
    rw [hfraction, ← List.append_assoc, digitsValue_concat]
    split <;> omega

/-- There is one canonical numeral of a value. -/
theorem IsCanonical.eq_of_value_eq (hn : n.IsCanonical) (hm : m.IsCanonical)
    (h : (n.value : ℝ) = m.value) : n = m := by
  have hdecimal : n.decimal = m.decimal := by
    refine hn.isReduced.eq_of_value_eq hm.isReduced ?_
    rw [value_decimal, value_decimal, h]
  have hlength : n.fraction.length = m.fraction.length := congrArg Decimal.places hdecimal
  have hsign : n.sign = m.sign := by
    -- numbers below zero have the minus, and others do not
    rcases hn.sign with hn | ⟨hn, hnneg⟩ <;> rcases hm.sign with hm | ⟨hm, hmneg⟩
    · rw [hn, hm]
    · exact absurd (value_nonneg hn) (by rw [h]; exact hmneg.not_ge)
    · exact absurd (value_nonneg hm) (by rw [← h]; exact hnneg.not_ge)
    · rw [hn, hm]
  have hdigits : digitsValue (n.whole ++ n.fraction) = digitsValue (m.whole ++ m.fraction) := by
    have hunits := congrArg Decimal.units hdecimal
    rw [decimal, decimal, hsign] at hunits
    dsimp only at hunits
    split at hunits <;> omega
  have hnlt := digitsValue_lt n.isDigit_fraction
  have hmlt := digitsValue_lt m.isDigit_fraction
  rw [digitsValue_append, digitsValue_append, hlength] at hdigits
  rw [hlength] at hnlt
  have hfraction : digitsValue n.fraction = digitsValue m.fraction := by
    have hmod := congrArg (· % 10 ^ m.fraction.length) hdigits
    simpa [Nat.add_mul_mod_self_left, Nat.mod_eq_of_lt hnlt, Nat.mod_eq_of_lt hmlt] using hmod
  have hwhole : digitsValue n.whole = digitsValue m.whole := by
    rw [hfraction] at hdigits
    exact Nat.eq_of_mul_eq_mul_left (by positivity) (Nat.add_left_cancel hdigits)
  refine eq_of_parts hsign ?_ (eq_of_digitsValue_eq n.isDigit_fraction m.isDigit_fraction hlength hfraction)
  exact NoZeroInFront.eq_of_digitsValue_eq hn.whole hm.whole n.isDigit_whole m.isDigit_whole
    n.whole_ne_nil m.whole_ne_nil hwhole

end Numeral

/-! ## What is written for a decimal -/

namespace Decimal

variable (d : Decimal)

/-- The numeral that is written for a decimal. -/
def numeral : Numeral where
  sign := if d.units < 0 then some .minus else none
  whole := Nat.toDigits 10 (d.units.natAbs / 10 ^ d.places)
  fraction := if d.places = 0 then [] else padded d.places (d.units.natAbs % 10 ^ d.places)
  whole_ne_nil := List.ne_nil_of_length_pos Nat.length_toDigits_pos
  isDigit_whole _ hc := Nat.isDigit_of_mem_toDigits (by norm_num) le_rfl hc
  isDigit_fraction c hc := by
    split at hc
    · cases hc
    · rcases List.mem_append.mp hc with hzero | hdigit
      · rw [List.eq_of_mem_replicate hzero]
        rfl
      · exact Nat.isDigit_of_mem_toDigits (by norm_num) le_rfl hdigit

theorem padded_ne_nil (width n : ℕ) : padded width n ≠ [] :=
  List.append_ne_nil_of_right_ne_nil _ (List.ne_nil_of_length_pos Nat.length_toDigits_pos)

theorem chars_numeral : d.numeral.chars = d.chars := by
  have hmagnitude : d.numeral.whole ++ d.numeral.fractionChars
      = magnitudeChars d.units.natAbs d.places := by
    unfold magnitudeChars Numeral.fractionChars
    by_cases hplaces : d.places = 0
    · simp [numeral, hplaces]
    · simp [numeral, hplaces, padded_ne_nil]
  unfold Numeral.chars chars Numeral.signChars
  rw [List.append_assoc, hmagnitude, numeral]
  split <;> rfl

/-- The digits of the fraction stand for what is behind the point. -/
theorem numeral_fraction :
    d.numeral.fraction.length = d.places ∧
      digitsValue d.numeral.fraction = d.units.natAbs % 10 ^ d.places := by
  by_cases hplaces : d.places = 0
  · have hnone : d.numeral.fraction = [] := if_pos hplaces
    rw [hnone, hplaces, pow_zero, Nat.mod_one]
    exact ⟨rfl, rfl⟩
  · have hsome : d.numeral.fraction = padded d.places (d.units.natAbs % 10 ^ d.places) :=
      if_neg hplaces
    rw [hsome]
    exact ⟨length_padded (Nat.pos_of_ne_zero hplaces) (Nat.mod_lt _ (by positivity)),
      digitsValue_padded _ _⟩

theorem value_numeral : (d.numeral.value : ℝ) = d.value := by
  obtain ⟨hlength, hfraction⟩ := d.numeral_fraction
  have hwhole : digitsValue d.numeral.whole = d.units.natAbs / 10 ^ d.places :=
    digitsValue_toDigits _
  have hsplit : (d.units.natAbs : ℝ)
      = (d.units.natAbs / 10 ^ d.places : ℕ) * 10 ^ d.places
        + (d.units.natAbs % 10 ^ d.places : ℕ) := by
    exact_mod_cast (Nat.div_add_mod' d.units.natAbs (10 ^ d.places)).symm
  have hsign : (d.units : ℝ) = (if d.numeral.sign = some .minus then -1 else 1) * d.units.natAbs := by
    rw [Nat.cast_natAbs]
    by_cases hneg : d.units < 0
    · have hminus : d.numeral.sign = some .minus := if_pos hneg
      rw [if_pos hminus, abs_of_neg hneg]
      push_cast
      ring
    · have hnone : d.numeral.sign = none := if_neg hneg
      rw [hnone, if_neg (by decide), abs_of_nonneg (not_lt.mp hneg), one_mul]
  rw [Numeral.value_eq, hlength, hfraction, hwhole, value, hsign, mul_div_assoc, hsplit]
  congr 1
  field_simp

theorem value_neg_iff : d.value < 0 ↔ d.units < 0 := by
  rw [value, div_lt_iff₀ (by positivity), zero_mul, Int.cast_lt_zero]

variable {d}

/-- What is written for a reduced decimal is canonical. -/
theorem IsReduced.isCanonical_numeral (h : d.IsReduced) : d.numeral.IsCanonical where
  sign := by
    by_cases hneg : d.units < 0
    · right
      rw [value_numeral, value_neg_iff]
      exact ⟨if_pos hneg, hneg⟩
    · exact .inl (if_neg hneg)
  whole := by
    intro hzero
    have hnone := eq_zero_of_head?_toDigits hzero
    show Nat.toDigits 10 _ = _
    rw [hnone]
    rfl
  fraction := by
    by_cases hplaces : d.places = 0
    · have hnone : d.numeral.fraction = [] := if_pos hplaces
      rw [hnone]
      exact nofun
    · -- the last digit is the last one of all units, which is no zero
      have hdigit : ¬10 ∣ d.units := h.resolve_left hplaces
      have hsome : d.numeral.fraction = padded d.places (d.units.natAbs % 10 ^ d.places) :=
        if_neg hplaces
      have hmod : d.units.natAbs % 10 ^ d.places % 10 = d.units.natAbs % 10 :=
        Nat.mod_mod_of_dvd _ (dvd_pow_self 10 hplaces)
      rw [hsome, padded, List.getLast?_append_of_ne_nil _
        (List.ne_nil_of_length_pos Nat.length_toDigits_pos), getLast?_toDigits, hmod, ne_eq,
        Option.some.injEq, digitChar_eq_zero_iff (Nat.mod_lt _ (by norm_num))]
      omega

end Decimal

end ShapeOutline
