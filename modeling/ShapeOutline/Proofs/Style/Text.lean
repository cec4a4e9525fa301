import Mathlib
import ShapeOutline.Fill

/-!
# The texts of definitions, piece by piece

The text of a definition is put together from numbers, colours and names with separators between
them. Numbers are written with digits, signs and points only, so that no separator stands in them;
colours and names may be any text.

* `Scalar.notMem_chars`: numbers hold no separators;
* `cut_first`, `cut_last`: texts are cut at their first and at their last separator;
* `cut_before`: texts are cut where the first separator may follow;
* `cut_behind`, `cut_overlap`: where a separator may stand behind some front;
* `cut_anywhere`: what can go wrong when a separator may stand on both sides of the cut.
-/

namespace ShapeOutline

/-! ## Numbers -/

/-- Whether a character may stand in a number. -/
def isNumeral (c : Char) : Bool := c.isDigit || c == '-' || c == '.'

namespace Decimal

theorem isNumeral_of_mem_toDigits {c : Char} {n : ℕ} (h : c ∈ Nat.toDigits 10 n) :
    isNumeral c = true := by
  have hdigit := Nat.isDigit_of_mem_toDigits (by decide) (by decide) h
  rw [isNumeral, hdigit]
  rfl

theorem isNumeral_of_mem_padded {c : Char} {width n : ℕ} (h : c ∈ padded width n) :
    isNumeral c = true := by
  rcases List.mem_append.mp h with h | h
  · rw [List.eq_of_mem_replicate h]
    decide
  · exact isNumeral_of_mem_toDigits h

theorem isNumeral_of_mem_magnitudeChars {c : Char} {n places : ℕ}
    (h : c ∈ magnitudeChars n places) : isNumeral c = true := by
  unfold magnitudeChars at h
  dsimp only at h
  split at h
  · exact isNumeral_of_mem_toDigits h
  · rcases List.mem_append.mp h with h | h
    · exact isNumeral_of_mem_toDigits h
    · rcases List.mem_cons.mp h with rfl | h
      · decide
      · exact isNumeral_of_mem_padded h

theorem isNumeral_of_mem_chars {c : Char} {d : Decimal} (h : c ∈ d.chars) :
    isNumeral c = true := by
  unfold chars at h
  split at h
  · rcases List.mem_cons.mp h with rfl | h
    · decide
    · exact isNumeral_of_mem_magnitudeChars h
  · exact isNumeral_of_mem_magnitudeChars h

end Decimal

/-- No separator stands in a number. -/
theorem Scalar.notMem_chars {α : Type} [Scalar α] {c : Char} (hc : isNumeral c = false) (x : α) :
    c ∉ Scalar.chars x := by
  intro h
  rw [Decimal.isNumeral_of_mem_chars h] at hc
  exact absurd hc (by decide)

/-- No other separator stands in a number behind a mark. -/
theorem Scalar.notMem_append_chars {α : Type} [Scalar α] {c : Char} {mark : List Char}
    (hc : isNumeral c = false) (hmark : c ∉ mark) (x : α) : c ∉ mark ++ Scalar.chars x := by
  rw [List.mem_append]
  rintro (h | h)
  · exact hmark h
  · exact Scalar.notMem_chars hc x h

/-! ## Cutting at separators -/

section Cut

open List

variable {c : Char} {xs xs' ys ys' : List Char}

/-- Texts are cut at their first separator. -/
theorem cut_first (hxs : c ∉ xs) (hxs' : c ∉ xs')
    (h : xs ++ c :: ys = xs' ++ c :: ys') : xs = xs' ∧ ys = ys' := by
  induction xs generalizing xs' with
  | nil =>
    cases xs' with
    | nil => exact ⟨rfl, (cons.inj h).2⟩
    | cons x' xs' => exact absurd (mem_cons.mpr (.inl (cons.inj h).1)) hxs'
  | cons x xs ih =>
    cases xs' with
    | nil => exact absurd (mem_cons.mpr (.inl (cons.inj h).1.symm)) hxs
    | cons x' xs' =>
      obtain ⟨rfl, htail⟩ := cons.inj h
      obtain ⟨rfl, rfl⟩ := ih (mt (mem_cons_of_mem x) hxs) (mt (mem_cons_of_mem x) hxs') htail
      exact ⟨rfl, rfl⟩

/-- Texts are cut at their last separator. -/
theorem cut_last (hys : c ∉ ys) (hys' : c ∉ ys')
    (h : xs ++ c :: ys = xs' ++ c :: ys') : xs = xs' ∧ ys = ys' := by
  have hreverse : ys.reverse ++ c :: xs.reverse = ys'.reverse ++ c :: xs'.reverse := by
    have := congrArg reverse h
    simpa using this
  obtain ⟨hy, hx⟩ := cut_first (mt mem_reverse.mp hys)
    (mt mem_reverse.mp hys') hreverse
  exact ⟨reverse_injective hx, reverse_injective hy⟩

/-- Texts are cut where the first separator may follow. -/
theorem cut_before (hxs : c ∉ xs) (hxs' : c ∉ xs') (hys : ys = [] ∨ ∃ zs, ys = c :: zs)
    (hys' : ys' = [] ∨ ∃ zs, ys' = c :: zs) (h : xs ++ ys = xs' ++ ys') : xs = xs' ∧ ys = ys' := by
  -- with one more separator at the end there is one to cut at
  have hend : ∀ {ys : List Char}, (ys = [] ∨ ∃ zs, ys = c :: zs) → ∃ zs, ys ++ [c] = c :: zs := by
    rintro ys (rfl | ⟨zs, rfl⟩)
    · exact ⟨[], rfl⟩
    · exact ⟨zs ++ [c], rfl⟩
  obtain ⟨zs, hzs⟩ := hend hys
  obtain ⟨zs', hzs'⟩ := hend hys'
  have hcut : xs ++ c :: zs = xs' ++ c :: zs' := by
    rw [← hzs, ← hzs', ← append_assoc, ← append_assoc, h]
  obtain ⟨rfl, rfl⟩ := cut_first hxs hxs' hcut
  exact ⟨rfl, append_cancel_left h⟩

/-- A separator that does not stand in the front of a text stands behind it. -/
theorem cut_behind {front rest zs : List Char} (hfront : c ∉ front)
    (h : front ++ xs = zs ++ c :: rest) :
    ∃ taken, zs = front ++ taken ∧ xs = taken ++ c :: rest := by
  rcases append_eq_append_iff.mp h with ⟨taken, hzs, hxs⟩ | ⟨us, hus, hrest⟩
  · exact ⟨taken, hzs, hxs⟩
  · cases us with
    | nil =>
      rw [append_nil] at hus
      exact ⟨[], by rw [append_nil, hus], hrest.symm⟩
    | cons u us =>
      rw [hus, ← (cons.inj hrest).1] at hfront
      exact absurd (mem_append_right _ mem_cons_self) hfront

/-- Two separators of which one begins inside the other are the same one. -/
theorem cut_overlap {sep us vs ws : List Char} (hsep : c ∉ sep)
    (h : c :: sep ++ us = ws ++ (c :: sep ++ vs)) :
    (ws = [] ∧ us = vs) ∨ ∃ zs, ws = c :: sep ++ zs ∧ us = zs ++ c :: sep ++ vs := by
  cases ws with
  | nil => exact .inl ⟨rfl, append_cancel_left h⟩
  | cons w ws =>
    -- what is left of the first separator holds no second one
    right
    obtain ⟨hw, htail⟩ := cons.inj h
    obtain ⟨zs, rfl, hus⟩ := cut_behind hsep htail
    rw [← hw]
    exact ⟨zs, rfl, hus.trans (append_assoc zs (c :: sep) vs).symm⟩

/-- When a separator may stand anywhere, one side may reach over the separator of the other. -/
theorem cut_anywhere (sep : List Char) (hsep : c ∉ sep)
    (h : xs ++ c :: sep ++ ys = xs' ++ c :: sep ++ ys') :
    (xs = xs' ∧ ys = ys') ∨
      (∃ zs, xs' = xs ++ c :: sep ++ zs ∧ ys = zs ++ c :: sep ++ ys') ∨
      ∃ zs, xs = xs' ++ c :: sep ++ zs ∧ ys' = zs ++ c :: sep ++ ys := by
  rw [append_assoc, append_assoc] at h
  -- the side that is shorter in front is the one that may be reached over
  rcases append_eq_append_iff.mp h with ⟨ws, rfl, hws⟩ | ⟨ws, rfl, hws⟩
  · rcases cut_overlap hsep hws with ⟨rfl, hys⟩ | ⟨zs, rfl, hys⟩
    · exact .inl ⟨(append_nil xs).symm, hys⟩
    · exact .inr (.inl ⟨zs, (append_assoc _ _ _).symm, hys⟩)
  · rcases cut_overlap hsep hws with ⟨rfl, hys⟩ | ⟨zs, rfl, hys⟩
    · exact .inl ⟨append_nil xs', hys.symm⟩
    · exact .inr (.inr ⟨zs, (append_assoc _ _ _).symm, hys⟩)

/-- The same with a single blank for the separator. -/
theorem cut_blank (h : xs ++ ' ' :: ys = xs' ++ ' ' :: ys') :
    (xs = xs' ∧ ys = ys') ∨
      (∃ zs, xs' = xs ++ ' ' :: zs ∧ ys = zs ++ ' ' :: ys') ∨
      ∃ zs, xs = xs' ++ ' ' :: zs ∧ ys' = zs ++ ' ' :: ys := by
  have hcut := cut_anywhere [] not_mem_nil
    (by simpa only [append_assoc, singleton_append] using h)
  simpa only [append_assoc, singleton_append] using hcut

end Cut

end ShapeOutline
