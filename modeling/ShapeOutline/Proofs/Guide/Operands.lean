import Mathlib
import ShapeOutline.Proofs.Exact
import ShapeOutline.Proofs.Guide.Places

/-!
# The texts of operands

An operand is written as a decimal numeral or as a name. A numeral is told from a name by its digits: a
name may begin with some, but then a letter or an underscore comes before anything else. So each is read
back as what it is, when a blank or nothing follows.

* `Numeral`, `GuideName`, `OperandText`: what can be written for an operand;
* `Numeral.value`, `Numeral.value_eq`: the number that a numeral stands for;
* `Numeral.number?_append`, `GuideName.number?_append`: what is read of them;
* `OperandText.operand?_append`: an operand is read back;
* `Formula.exists_numeral`: what is read as a number is a numeral.
-/

namespace ShapeOutline

/-! ## Numerals -/

/-- A sign in front of digits. -/
inductive Sign where
  | plus
  | minus
deriving DecidableEq

def Sign.char : Sign → Char
  | plus => '+'
  | minus => '-'

/-- A decimal numeral: a sign or none, digits, and a point with digits behind it or none. -/
structure Numeral where
  sign : Option Sign
  whole : List Char
  fraction : List Char
  whole_ne_nil : whole ≠ []
  isDigit_whole : ∀ c ∈ whole, c.isDigit = true
  isDigit_fraction : ∀ c ∈ fraction, c.isDigit = true

/-- The number that a list of decimal digits stands for. -/
def digitsValue (digits : List Char) : ℕ :=
  Nat.ofDigits 10 (digits.reverse.map fun c => c.toNat - '0'.toNat)

namespace Numeral

variable (n : Numeral)

def signChars : List Char := n.sign.toList.map Sign.char

/-- The fraction with its point; without digits there is no point. -/
def fractionChars : List Char := if n.fraction = [] then [] else '.' :: n.fraction

/-- The text of a numeral. -/
def chars : List Char := n.signChars ++ n.whole ++ n.fractionChars

/-- The number that a numeral stands for: all its digits, as many of them behind the point as are in the
fraction, with its sign. -/
def value {α : Type} [Scalar α] : α :=
  let magnitude : α := Scalar.ofScientific (digitsValue (n.whole ++ n.fraction)) true n.fraction.length
  if n.sign = some .minus then -magnitude else magnitude

/-- The parts of a numeral, as reading tells them apart. -/
def parts : Formula.NumberText := ⟨n.signChars, n.whole, n.fractionChars⟩

end Numeral

/-- Digits are counted from the front as from the end. -/
theorem digitsValue_eq_foldl (digits : List Char) :
    digitsValue digits = digits.foldl (fun n c => 10 * n + (c.toNat - '0'.toNat)) 0 := by
  have hswap : (fun (n : ℕ) (c : Char) => 10 * n + (c.toNat - '0'.toNat))
      = fun n c => (c.toNat - '0'.toNat) + 10 * n := by
    funext n c
    exact Nat.add_comm _ _
  rw [digitsValue, Nat.ofDigits_eq_foldr, List.map_reverse, List.foldr_reverse, List.foldl_map, hswap]
  rfl

theorem digitsValue_append (front back : List Char) :
    digitsValue (front ++ back) = digitsValue back + 10 ^ back.length * digitsValue front := by
  rw [digitsValue, List.reverse_append, List.map_append, Nat.ofDigits_append, List.length_map,
    List.length_reverse]
  rfl

namespace Numeral

variable (n : Numeral)

/-- Behind the point stands the fraction. -/
theorem drop_fractionChars : n.fractionChars.drop 1 = n.fraction := by
  rw [fractionChars]
  split
  · next hnone => rw [hnone]; rfl
  · rfl

theorem value_parts {α : Type} [Scalar α] : (n.parts.value : α) = n.value := by
  have hdrop := n.drop_fractionChars
  have hlength : n.fractionChars.length - 1 = n.fraction.length := by
    rw [← hdrop, List.length_drop]
  have hsign : (n.signChars == ['-']) = decide (n.sign = some .minus) := by
    rw [signChars]
    cases n.sign with
    | none => rfl
    | some sign => cases sign <;> rfl
  show Formula.decimalValue (n.signChars == ['-']) (n.whole ++ n.fractionChars.drop 1)
    (n.fractionChars.length - 1) = n.value
  rw [Formula.decimalValue, hdrop, hlength, hsign, ← digitsValue_eq_foldl]
  simp only [value, decide_eq_true_eq]

/-- Over the real numbers, a numeral stands for its whole part and its fraction together, with its
sign. -/
theorem value_eq :
    (n.value : ℝ) = (if n.sign = some .minus then -1 else 1) *
      (digitsValue n.whole + digitsValue n.fraction / 10 ^ n.fraction.length) := by
  have hscientific (m e : ℕ) : (Scalar.ofScientific m true e : ℝ) = m / 10 ^ e := by
    show (OfScientific.ofScientific m true e : ℝ) = _
    rw [← Rat.cast_ofScientific]
    show ((Rat.ofScientific m true e : ℚ) : ℝ) = _
    rw [Rat.ofScientific_true_def, Rat.mkRat_eq_div]
    push_cast
    rfl
  have hmagnitude : ((digitsValue (n.whole ++ n.fraction) : ℕ) : ℝ) / 10 ^ n.fraction.length
      = digitsValue n.whole + digitsValue n.fraction / 10 ^ n.fraction.length := by
    rw [digitsValue_append]
    push_cast
    field_simp
    ring
  rw [value, hscientific, hmagnitude]
  split
  · exact (neg_one_mul _).symm
  · exact (one_mul _).symm

end Numeral

/-! ## Names and operands -/

/-- A name of the guide language: letters, digits and underscores, not all of them digits. -/
structure GuideName where
  chars : List Char
  isNameChar : ∀ c ∈ chars, Formula.isNameChar c = true
  exists_letter : ∃ c ∈ chars, Formula.isNameLetter c = true

/-- What is written for an operand. -/
inductive OperandText where
  | numeral (n : Numeral)
  | name (n : GuideName)

namespace OperandText

def chars : OperandText → List Char
  | numeral n => n.chars
  | name n => n.chars

/-- The operand that is written so at a place of a text. -/
def operand {α : Type} [Scalar α] (start : Nat) : OperandText → Operand α
  | numeral n => .literal n.value
  | name n => .name (String.ofList n.chars) start (start + Cursor.bytes n.chars)

end OperandText

/-! ## Reading them back -/

/-- What may follow an operand: a blank or nothing. -/
def Ends (rest : List Char) : Prop := ∀ c ∈ rest.head?, Cursor.isBlank c = true

theorem isBlank_iff (c : Char) : Cursor.isBlank c = true ↔ c = ' ' ∨ c = '\t' := by
  rw [Cursor.isBlank, Bool.or_eq_true, beq_iff_eq, beq_iff_eq]

theorem Ends.forall_head? {rest : List Char} (h : Ends rest) (test : Char → Bool)
    (hspace : test ' ' = false) (htab : test '\t' = false) : ∀ c ∈ rest.head?, test c = false := by
  intro c hc
  rcases (isBlank_iff c).mp (h c hc) with rfl | rfl
  · exact hspace
  · exact htab

/-- A run of characters ends where one of another kind follows. -/
theorem span_append {test : Char → Bool} {run rest : List Char} (hrun : ∀ c ∈ run, test c = true)
    (hrest : ∀ c ∈ rest.head?, test c = false) :
    (run ++ rest).takeWhile test = run ∧ (run ++ rest).dropWhile test = rest := by
  rw [List.takeWhile_append_of_pos hrun, List.dropWhile_append_of_pos hrun]
  cases rest with
  | nil => exact ⟨List.append_nil run, rfl⟩
  | cons c rest =>
    have hc : ¬ test c = true := Bool.eq_false_iff.mp (hrest c rfl)
    rw [List.takeWhile_cons_of_neg hc, List.dropWhile_cons_of_neg hc, List.append_nil]
    exact ⟨rfl, rfl⟩

/-- A character of a class is not one outside of it. -/
theorem ne_of_test {test : Char → Bool} {x y : Char} (hx : test x = true) (hy : test y = false) :
    x ≠ y := by
  rintro rfl
  exact Bool.noConfusion (hx.symm.trans hy)

namespace Formula

/-- What does not begin with a sign has none. -/
theorem splitSign_cons {x : Char} (hminus : x ≠ '-') (hplus : x ≠ '+') (cs : List Char) :
    splitSign (x :: cs) = ([], x :: cs) := by
  unfold splitSign
  split
  · next heq => exact absurd (List.cons.inj heq).1 hminus
  · next heq => exact absurd (List.cons.inj heq).1 hplus
  · rfl

/-- What does not begin with a point has no fraction. -/
theorem splitFraction_of_head {cs : List Char} (h : cs.head? ≠ some '.') :
    splitFraction cs = ([], cs) := by
  unfold splitFraction
  split
  · exact absurd rfl h
  · rfl

end Formula

namespace Numeral

variable (n : Numeral)

theorem exists_whole : ∃ d digits, n.whole = d :: digits ∧ d.isDigit = true := by
  obtain ⟨d, digits, hwhole⟩ := List.exists_cons_of_ne_nil n.whole_ne_nil
  exact ⟨d, digits, hwhole, n.isDigit_whole d (hwhole ▸ List.mem_cons_self)⟩

theorem splitSign_append (rest : List Char) :
    Formula.splitSign (n.signChars ++ (n.whole ++ rest)) = (n.signChars, n.whole ++ rest) := by
  rw [signChars]
  cases n.sign with
  | none =>
    obtain ⟨d, digits, hwhole, hdigit⟩ := n.exists_whole
    rw [hwhole]
    exact Formula.splitSign_cons (ne_of_test hdigit (by decide))
      (ne_of_test hdigit (by decide)) _
  | some sign => cases sign <;> rfl

theorem splitFraction_append {rest : List Char} (h : Ends rest) :
    Formula.splitFraction (n.fractionChars ++ rest) = (n.fractionChars, rest) := by
  rw [fractionChars]
  split
  · refine Formula.splitFraction_of_head fun hpoint => ?_
    exact absurd (h '.' hpoint) (by decide)
  · next hdigits =>
    obtain ⟨htake, hdrop⟩ := span_append n.isDigit_fraction (h.forall_head? _ (by decide) (by decide))
    rw [List.cons_append]
    unfold Formula.splitFraction
    split
    · next heq =>
      obtain ⟨-, rfl⟩ := List.cons.inj heq
      rw [htake, hdrop]
      split
      · next hnone => exact absurd hnone hdigits
      · rfl
    · next hother => exact absurd rfl (hother _)

/-- A numeral is read as a number with its parts. -/
theorem number?_append {rest : List Char} (h : Ends rest) :
    Formula.number? (n.chars ++ rest) = some (n.parts, rest) := by
  have hsign : Formula.splitSign (n.chars ++ rest)
      = (n.signChars, n.whole ++ (n.fractionChars ++ rest)) := by
    rw [chars, List.append_assoc, List.append_assoc]
    exact n.splitSign_append _
  have hboundary : ∀ c ∈ (n.fractionChars ++ rest).head?, c.isDigit = false := by
    rw [fractionChars]
    split
    · exact h.forall_head? _ (by decide) (by decide)
    · intro c hc
      rw [← Option.some.inj hc]
      decide
  obtain ⟨htake, hdrop⟩ := span_append n.isDigit_whole hboundary
  have hletter : rest.head?.any Formula.isNameLetter = false := by
    cases hhead : rest.head? with
    | none => rfl
    | some c =>
      exact h.forall_head? Formula.isNameLetter (by decide) (by decide) c hhead
  unfold Formula.number?
  rw [hsign]
  dsimp only
  rw [htake, hdrop, n.splitFraction_append h]
  dsimp only
  rw [hletter, List.isEmpty_eq_false_iff.mpr n.whole_ne_nil]
  rfl

end Numeral

theorem isDigit_of_isNameLetter {c : Char} (h : Formula.isNameLetter c = true) :
    c.isDigit = false := by
  rw [Formula.isNameLetter, Bool.or_eq_true, beq_iff_eq] at h
  rcases h with hletter | rfl
  · simp only [Char.isAlpha, Char.isUpper, Char.isLower, Char.isDigit, Bool.or_eq_true,
      Bool.and_eq_true, Bool.and_eq_false_iff, decide_eq_true_eq, decide_eq_false_iff_not, ge_iff_le,
      UInt32.le_iff_toNat_le] at hletter ⊢
    have hzero : '0'.val.toNat = 48 := rfl
    have hnine : '9'.val.toNat = 57 := rfl
    have hupper : 'A'.val.toNat = 65 := rfl
    have hlower : 'a'.val.toNat = 97 := rfl
    omega
  · decide

theorem isNameLetter_of_isNameChar {c : Char} (h : Formula.isNameChar c = true)
    (hdigit : c.isDigit = false) : Formula.isNameLetter c = true := by
  rw [Formula.isNameChar, Char.isAlphanum, hdigit, Bool.or_false] at h
  exact h

namespace GuideName

variable (n : GuideName)

/-- Behind the digits that a name begins with there is a letter or an underscore. -/
theorem exists_digits : ∃ digits c more, n.chars = digits ++ c :: more ∧
    (∀ d ∈ digits, d.isDigit = true) ∧ c.isDigit = false ∧ Formula.isNameLetter c = true := by
  have hsplit : n.chars.takeWhile Char.isDigit ++ n.chars.dropWhile Char.isDigit = n.chars :=
    List.takeWhile_append_dropWhile
  have hdigits : ∀ d ∈ n.chars.takeWhile Char.isDigit, d.isDigit = true :=
    fun d hd => List.mem_takeWhile_imp hd
  cases hbehind : n.chars.dropWhile Char.isDigit with
  | nil =>
    obtain ⟨c, hc, hletter⟩ := n.exists_letter
    have hdigit : c.isDigit = true := List.dropWhile_eq_nil_iff.mp hbehind c hc
    rw [isDigit_of_isNameLetter hletter] at hdigit
    exact absurd hdigit Bool.false_ne_true
  | cons c more =>
    rw [hbehind] at hsplit
    have hc : c.isDigit = false := by
      have hhead := List.head?_dropWhile_not Char.isDigit n.chars
      rw [hbehind] at hhead
      simpa using hhead
    have hmem : c ∈ n.chars := by
      rw [← hsplit]
      exact List.mem_append_right _ List.mem_cons_self
    exact ⟨_, c, more, hsplit.symm, hdigits, hc, isNameLetter_of_isNameChar (n.isNameChar c hmem) hc⟩

theorem exists_head : ∃ c more, n.chars = c :: more ∧ Formula.isNameChar c = true := by
  obtain ⟨letter, hletter, -⟩ := n.exists_letter
  obtain ⟨c, more, hchars⟩ := List.exists_cons_of_ne_nil (List.ne_nil_of_mem hletter)
  exact ⟨c, more, hchars, n.isNameChar c (hchars ▸ List.mem_cons_self)⟩

/-- A name is not read as a number: behind the digits it begins with there is a letter. -/
theorem number?_append (rest : List Char) : Formula.number? (n.chars ++ rest) = none := by
  obtain ⟨digits, c, more, hchars, hdigits, hc, hletter⟩ := n.exists_digits
  have hsign : Formula.splitSign (n.chars ++ rest) = ([], n.chars ++ rest) := by
    obtain ⟨x, tail, hcons, hx⟩ := n.exists_head
    rw [hcons]
    exact Formula.splitSign_cons (ne_of_test hx (by decide)) (ne_of_test hx (by decide)) _
  have hboundary : ∀ x ∈ (c :: (more ++ rest)).head?, x.isDigit = false := by
    intro x hx
    rw [← Option.some.inj hx]
    exact hc
  obtain ⟨htake, hdrop⟩ := span_append hdigits hboundary
  have hpoint : Formula.splitFraction (c :: (more ++ rest)) = ([], c :: (more ++ rest)) :=
    Formula.splitFraction_of_head fun heq => ne_of_test hletter (by decide) (Option.some.inj heq)
  have hcond : (digits.isEmpty || (c :: (more ++ rest)).head?.any Formula.isNameLetter) = true :=
    Bool.or_eq_true_iff.mpr (.inr hletter)
  unfold Formula.number?
  rw [hsign, hchars, List.append_assoc, List.cons_append]
  dsimp only
  rw [htake, hdrop, hpoint]
  exact if_pos hcond

end GuideName

namespace OperandText

variable {α : Type} [Scalar α]

/-- What is written for an operand is read back, with the place behind it. -/
theorem operand?_append (arg : OperandText) {rest : List Char} (h : Ends rest) (start : Nat) :
    Formula.operand? (α := α) ⟨start, arg.chars ++ rest⟩
      = some (arg.operand start, ⟨start + Cursor.bytes arg.chars, rest⟩) := by
  cases arg with
  | numeral n =>
    show Formula.operand? (α := α) ⟨start, n.chars ++ rest⟩ = _
    unfold Formula.operand?
    rw [n.number?_append h]
    show some (Operand.literal n.parts.value, _) = _
    rw [n.value_parts]
    rfl
  | name n =>
    obtain ⟨htake, hdrop⟩ := span_append n.isNameChar (h.forall_head? _ (by decide) (by decide))
    obtain ⟨c, more, hchars, -⟩ := n.exists_head
    have hname : ¬ n.chars.isEmpty = true := by
      rw [hchars]
      exact Bool.false_ne_true
    show Formula.operand? (α := α) ⟨start, n.chars ++ rest⟩ = _
    unfold Formula.operand?
    rw [n.number?_append rest]
    dsimp only
    rw [htake, hdrop, if_neg hname]
    rfl

/-- An operand is written with something, and without a blank in front. -/
theorem exists_head (arg : OperandText) :
    ∃ c more, arg.chars = c :: more ∧ Cursor.isBlank c = false := by
  have hblank (test : Char → Bool) (hspace : test ' ' = false) (htab : test '\t' = false) {c : Char}
      (hc : test c = true) : Cursor.isBlank c = false := by
    rw [Bool.eq_false_iff, Ne, isBlank_iff, not_or]
    exact ⟨ne_of_test hc hspace, ne_of_test hc htab⟩
  cases arg with
  | numeral n =>
    obtain ⟨d, digits, hwhole, hdigit⟩ := n.exists_whole
    show ∃ c more, n.chars = c :: more ∧ _
    rw [Numeral.chars, Numeral.signChars, hwhole]
    cases n.sign with
    | none => exact ⟨d, _, rfl, hblank Char.isDigit (by decide) (by decide) hdigit⟩
    | some sign =>
      refine ⟨sign.char, _, rfl, ?_⟩
      cases sign <;> decide
  | name n =>
    obtain ⟨c, more, hchars, hc⟩ := n.exists_head
    exact ⟨c, more, hchars, hblank Formula.isNameChar (by decide) (by decide) hc⟩

end OperandText

/-! ## What is read is a numeral -/

namespace Formula

theorem exists_sign (cs : List Char) :
    ∃ sign : Option Sign, (splitSign cs).1 = sign.toList.map Sign.char := by
  unfold splitSign
  split
  · exact ⟨some .minus, rfl⟩
  · exact ⟨some .plus, rfl⟩
  · exact ⟨none, rfl⟩

theorem exists_fraction (cs : List Char) :
    ∃ fraction, (splitFraction cs).1 = (if fraction = [] then [] else '.' :: fraction) ∧
      ∀ c ∈ fraction, c.isDigit = true := by
  have hnone : ∀ c ∈ ([] : List Char), c.isDigit = true := fun c hc => nomatch hc
  unfold splitFraction
  split
  · next rest =>
    split
    · exact ⟨[], rfl, hnone⟩
    · next hdigits =>
      exact ⟨rest.takeWhile Char.isDigit, (if_neg hdigits).symm,
        fun c hc => List.mem_takeWhile_imp hc⟩
  · exact ⟨[], rfl, hnone⟩

/-- What is read as a number is a numeral. -/
theorem exists_numeral {cs rest : List Char} {n : NumberText} (h : number? cs = some (n, rest)) :
    ∃ m : Numeral, n = m.parts := by
  obtain ⟨-, hwhole⟩ := number?_eq_some h
  unfold number? at h
  dsimp only at h
  split at h
  · cases h
  · obtain ⟨sign, hsign⟩ := exists_sign cs
    obtain ⟨fraction, hfraction, hdigits⟩ :=
      exists_fraction ((splitSign cs).2.dropWhile Char.isDigit)
    obtain ⟨rfl, -⟩ := Prod.mk.inj (Option.some.inj h)
    refine ⟨⟨sign, (splitSign cs).2.takeWhile Char.isDigit, fraction, hwhole,
      fun c hc => List.mem_takeWhile_imp hc, hdigits⟩, ?_⟩
    rw [Numeral.parts, Numeral.signChars, Numeral.fractionChars, ← hsign, ← hfraction]

end Formula

end ShapeOutline
