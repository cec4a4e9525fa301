import Mathlib
import ShapeOutline.Proofs.Guide.Places

/-!
# Parsing expressions

A parsing expression looks at a text from some place on: it matches a part that begins there and leaves the
place behind it, or it fails. Choices are ordered and repetitions take as much as they can; neither is
reconsidered when what follows fails. A rule puts what it matches into the parse tree.

* `Peg`, `Tree`, `Peg.Run`: parsing expressions, what rules leave, and what expressions do;
* `Peg.Run.deterministic`: an expression does one thing at a place;
* `Peg.Run.exists_chars`: what it matches begins there;
* `Peg.opt`, `Peg.oneOrMore`, `Peg.oneOf`: compound expressions;
* `Peg.IsClass`: expressions that match one character of a class;
* `Peg.IsClass.run_many`, `Peg.IsClass.run_oneOrMore`, `Peg.IsClass.run_reject`: what repeating or refusing
  a class comes to.
-/

namespace ShapeOutline

/-! ## Parsing expressions -/

/-- The rules of the grammar that have a node in the parse tree. -/
inductive Rule where
  | number
  | name
  | operand
  | valFormula
  | operator
  | opFormula
  | endOfText
  | formula
deriving DecidableEq

/-- A parsing expression. -/
inductive Peg where
  /-- one character of a class -/
  | one (test : Char → Bool)
  /-- given characters -/
  | text (chars : List Char)
  /-- nothing, at the beginning of the text -/
  | front
  /-- nothing, at the end of the text -/
  | back
  /-- one behind the other -/
  | seq (e f : Peg)
  /-- the first, or the second where the first fails -/
  | choice (e f : Peg)
  /-- as often as it matches -/
  | many (e : Peg)
  /-- nothing, where the expression fails -/
  | reject (e : Peg)
  /-- the expression, as a node of the tree -/
  | rule (r : Rule) (e : Peg)

/-- A node of a parse tree: its rule, the bytes it covers, its text, and the nodes within it. -/
inductive Tree where
  | node (rule : Rule) (start stop : Nat) (chars : List Char) (inner : List Tree)

namespace Peg

/-- What an expression does at a place: it fails, or it leaves some nodes and the place behind. -/
inductive Run : Peg → Cursor → Option (List Tree × Cursor) → Prop
  | one_match {test : Char → Bool} {offset : Nat} {x : Char} {rest : List Char}
      (h : test x = true) :
      Run (.one test) ⟨offset, x :: rest⟩ (some ([], ⟨offset + x.utf8Size, rest⟩))
  | one_other {test : Char → Bool} {offset : Nat} {x : Char} {rest : List Char}
      (h : test x = false) : Run (.one test) ⟨offset, x :: rest⟩ none
  | one_end {test : Char → Bool} {offset : Nat} : Run (.one test) ⟨offset, []⟩ none
  | text_match {chars : List Char} {c : Cursor} {rest : List Char} (h : c.rest = chars ++ rest) :
      Run (.text chars) c (some ([], c.after chars rest))
  | text_other {chars : List Char} {c : Cursor} (h : ¬ chars <+: c.rest) : Run (.text chars) c none
  | front_match {c : Cursor} (h : c.offset = 0) : Run .front c (some ([], c))
  | front_other {c : Cursor} (h : c.offset ≠ 0) : Run .front c none
  | back_match {c : Cursor} (h : c.rest = []) : Run .back c (some ([], c))
  | back_other {c : Cursor} (h : c.rest ≠ []) : Run .back c none
  | seq_match {e f : Peg} {c c' d : Cursor} {ts us : List Tree} (he : Run e c (some (ts, c')))
      (hf : Run f c' (some (us, d))) : Run (.seq e f) c (some (ts ++ us, d))
  | seq_first {e f : Peg} {c : Cursor} (he : Run e c none) : Run (.seq e f) c none
  | seq_second {e f : Peg} {c c' : Cursor} {ts : List Tree} (he : Run e c (some (ts, c')))
      (hf : Run f c' none) : Run (.seq e f) c none
  | choice_first {e f : Peg} {c d : Cursor} {ts : List Tree} (he : Run e c (some (ts, d))) :
      Run (.choice e f) c (some (ts, d))
  | choice_second {e f : Peg} {c : Cursor} {r : Option (List Tree × Cursor)} (he : Run e c none)
      (hf : Run f c r) : Run (.choice e f) c r
  | many_stop {e : Peg} {c : Cursor} (he : Run e c none) : Run (.many e) c (some ([], c))
  | many_more {e : Peg} {c c' d : Cursor} {ts us : List Tree} (he : Run e c (some (ts, c')))
      (hmore : Run (.many e) c' (some (us, d))) : Run (.many e) c (some (ts ++ us, d))
  | reject_match {e : Peg} {c : Cursor} (he : Run e c none) : Run (.reject e) c (some ([], c))
  | reject_fail {e : Peg} {c d : Cursor} {ts : List Tree} (he : Run e c (some (ts, d))) :
      Run (.reject e) c none
  | rule_match {r : Rule} {e : Peg} {c d : Cursor} {ts : List Tree} {chars : List Char}
      (he : Run e c (some (ts, d))) (hchars : c.rest = chars ++ d.rest) :
      Run (.rule r e) c (some ([.node r c.offset d.offset chars ts], d))
  | rule_fail {r : Rule} {e : Peg} {c : Cursor} (he : Run e c none) : Run (.rule r e) c none

/-- An expression does one thing at a place. -/
theorem Run.deterministic {e : Peg} {c : Cursor} {r r' : Option (List Tree × Cursor)}
    (h : Run e c r) (h' : Run e c r') : r = r' := by
  induction h generalizing r' with
  | one_match h =>
    cases h' with
    | one_match _ => rfl
    | one_other hother => exact absurd (h.symm.trans hother) Bool.noConfusion
  | one_other h =>
    cases h' with
    | one_match hmatch => exact absurd (hmatch.symm.trans h) Bool.noConfusion
    | one_other _ => rfl
  | one_end =>
    cases h'
    rfl
  | @text_match chars c rest h =>
    cases h' with
    | text_match hmatch => rw [List.append_cancel_left (h.symm.trans hmatch)]
    | text_other hother => exact absurd ⟨rest, h.symm⟩ hother
  | text_other h =>
    cases h' with
    | text_match hmatch => exact absurd ⟨_, hmatch.symm⟩ h
    | text_other _ => rfl
  | front_match h =>
    cases h' with
    | front_match _ => rfl
    | front_other hother => exact absurd h hother
  | front_other h =>
    cases h' with
    | front_match hmatch => exact absurd hmatch h
    | front_other _ => rfl
  | back_match h =>
    cases h' with
    | back_match _ => rfl
    | back_other hother => exact absurd h hother
  | back_other h =>
    cases h' with
    | back_match hmatch => exact absurd hmatch h
    | back_other _ => rfl
  | seq_match _ _ ihe ihf =>
    cases h' with
    | seq_match he hf =>
      cases ihe he
      cases ihf hf
      rfl
    | seq_first he => cases ihe he
    | seq_second he hf =>
      cases ihe he
      cases ihf hf
  | seq_first _ ihe =>
    cases h' with
    | seq_match he _ => cases ihe he
    | seq_first _ => rfl
    | seq_second _ _ => rfl
  | seq_second _ _ ihe ihf =>
    cases h' with
    | seq_match he hf =>
      cases ihe he
      cases ihf hf
    | seq_first _ => rfl
    | seq_second _ _ => rfl
  | choice_first _ ihe =>
    cases h' with
    | choice_first he => exact ihe he
    | choice_second he _ => cases ihe he
  | choice_second _ _ ihe ihf =>
    cases h' with
    | choice_first he => cases ihe he
    | choice_second _ hf => exact ihf hf
  | many_stop _ ihe =>
    cases h' with
    | many_stop _ => rfl
    | many_more he _ => cases ihe he
  | many_more _ _ ihe ihmore =>
    cases h' with
    | many_stop he => cases ihe he
    | many_more he hmore =>
      cases ihe he
      cases ihmore hmore
      rfl
  | reject_match _ ihe =>
    cases h' with
    | reject_match _ => rfl
    | reject_fail he => cases ihe he
  | reject_fail _ ihe =>
    cases h' with
    | reject_match he => cases ihe he
    | reject_fail _ => rfl
  | rule_match _ hchars ihe =>
    cases h' with
    | rule_match he hchars' =>
      cases ihe he
      rw [List.append_cancel_right (hchars.symm.trans hchars')]
    | rule_fail he => cases ihe he
  | rule_fail _ ihe =>
    cases h' with
    | rule_match he _ => cases ihe he
    | rule_fail _ => rfl

/-- What an expression matches begins where it looks. -/
theorem Run.exists_chars {e : Peg} {c d : Cursor} {ts : List Tree} (h : Run e c (some (ts, d))) :
    ∃ chars, c.rest = chars ++ d.rest := by
  generalize hr : some (ts, d) = r at h
  induction h generalizing ts d with
  | one_match _ =>
    cases hr
    exact ⟨[_], rfl⟩
  | text_match h =>
    cases hr
    exact ⟨_, h⟩
  | front_match _ | back_match _ | many_stop _ | reject_match _ =>
    cases hr
    exact ⟨[], rfl⟩
  | seq_match _ _ ihe ihf | many_more _ _ ihe ihf =>
    cases hr
    obtain ⟨chars, hchars⟩ := ihe rfl
    obtain ⟨more, hmore⟩ := ihf rfl
    exact ⟨chars ++ more, by rw [hchars, hmore, List.append_assoc]⟩
  | choice_first _ ih => exact ih hr
  | choice_second _ _ _ ih => exact ih hr
  | rule_match _ hchars =>
    cases hr
    exact ⟨_, hchars⟩
  | _ => cases hr

/-- What a rule matches becomes a node of the tree. -/
theorem Run.exists_node {r : Rule} {e : Peg} {c d : Cursor} {ts : List Tree}
    (h : Run e c (some (ts, d))) :
    ∃ chars, Run (.rule r e) c (some ([.node r c.offset d.offset chars ts], d)) := by
  obtain ⟨chars, hchars⟩ := h.exists_chars
  exact ⟨chars, .rule_match h hchars⟩

/-! ## Compound expressions -/

/-- The expression, or nothing where it fails. -/
def opt (e : Peg) : Peg := .choice e (.text [])

/-- The expression once, and then as often as it matches. -/
def oneOrMore (e : Peg) : Peg := .seq e (.many e)

/-- The first of the given texts that is there. -/
def oneOf : List (List Char) → Peg
  | [] => .reject (.text [])
  | chars :: others => .choice (.text chars) (oneOf others)

variable {e f : Peg} {c d : Cursor}

theorem run_text_nil (c : Cursor) : Run (.text []) c (some ([], c)) :=
  @Run.text_match [] c c.rest rfl

theorem run_opt (h : Run e c (some ([], d))) : Run e.opt c (some ([], d)) := .choice_first h

theorem run_opt_none (h : Run e c none) : Run e.opt c (some ([], c)) :=
  .choice_second h (run_text_nil c)

/-! ## Classes of characters -/

/-- The expression matches one character of the class. -/
structure IsClass (e : Peg) (test : Char → Bool) : Prop where
  run_match {x : Char} (offset : Nat) (rest : List Char) (h : test x = true) :
    Run e ⟨offset, x :: rest⟩ (some ([], ⟨offset + x.utf8Size, rest⟩))
  run_other {x : Char} (offset : Nat) (rest : List Char) (h : test x = false) :
    Run e ⟨offset, x :: rest⟩ none
  run_end (offset : Nat) : Run e ⟨offset, []⟩ none

theorem isClass_one (test : Char → Bool) : IsClass (.one test) test where
  run_match _ _ h := .one_match h
  run_other _ _ h := .one_other h
  run_end _ := .one_end

theorem isClass_text (x : Char) : IsClass (.text [x]) (· == x) where
  run_match {y} offset rest h := by
    obtain rfl := beq_iff_eq.mp h
    exact .text_match (c := ⟨offset, y :: rest⟩) rfl
  run_other {y} offset rest h := .text_other fun hfront =>
    ne_of_beq_false h (List.cons_prefix_cons.mp hfront).1.symm
  run_end offset := .text_other fun hfront => List.cons_ne_nil _ _ (List.prefix_nil.mp hfront)

namespace IsClass

variable {test test' : Char → Bool}

theorem choice (he : e.IsClass test) (hf : f.IsClass test') :
    (Peg.choice e f).IsClass fun x => test x || test' x where
  run_match {x} offset rest h := by
    cases hx : test x with
    | true => exact .choice_first (he.run_match offset rest hx)
    | false =>
      rw [hx, Bool.false_or] at h
      exact .choice_second (he.run_other offset rest hx) (hf.run_match offset rest h)
  run_other {x} offset rest h := by
    rw [Bool.or_eq_false_iff] at h
    exact .choice_second (he.run_other offset rest h.1) (hf.run_other offset rest h.2)
  run_end offset := .choice_second (he.run_end offset) (hf.run_end offset)

theorem after_span_cons {x : Char} (hx : test x = true) (offset : Nat) (rest : List Char) :
    (Cursor.mk offset (x :: rest)).after ((x :: rest).takeWhile test) ((x :: rest).dropWhile test)
      = (Cursor.mk (offset + x.utf8Size) rest).after (rest.takeWhile test) (rest.dropWhile test) := by
  rw [List.takeWhile_cons_of_pos hx, List.dropWhile_cons_of_pos hx]
  dsimp only [Cursor.after]
  rw [Cursor.bytes, Nat.add_assoc]

/-- Repeating a class takes all its characters that come next. -/
theorem run_many (he : e.IsClass test) (c : Cursor) :
    Run (.many e) c (some ([], c.after (c.rest.takeWhile test) (c.rest.dropWhile test))) := by
  obtain ⟨offset, rest⟩ := c
  induction rest generalizing offset with
  | nil => exact .many_stop (he.run_end offset)
  | cons x rest ih =>
    cases hx : test x with
    | true =>
      rw [after_span_cons hx]
      exact .many_more (he.run_match offset rest hx) (ih (offset + x.utf8Size))
    | false =>
      have hx' : ¬ test x = true := Bool.eq_false_iff.mp hx
      rw [List.takeWhile_cons_of_neg hx', List.dropWhile_cons_of_neg hx']
      exact .many_stop (he.run_other offset rest hx)

/-- Requiring a character of the class takes the same, or fails where there is none. -/
theorem run_oneOrMore (he : e.IsClass test) (c : Cursor) :
    Run e.oneOrMore c (if c.rest.takeWhile test = [] then none
      else some ([], c.after (c.rest.takeWhile test) (c.rest.dropWhile test))) := by
  obtain ⟨offset, rest⟩ := c
  cases rest with
  | nil => exact .seq_first (he.run_end offset)
  | cons x rest =>
    cases hx : test x with
    | true =>
      rw [after_span_cons hx, List.takeWhile_cons_of_pos hx, if_neg (List.cons_ne_nil _ _)]
      exact .seq_match (he.run_match offset rest hx) (he.run_many _)
    | false =>
      rw [List.takeWhile_cons_of_neg (Bool.eq_false_iff.mp hx), if_pos rfl]
      exact .seq_first (he.run_other offset rest hx)

/-- A class fails where no character of it comes next. -/
theorem run_none (he : e.IsClass test) (h : c.rest.head?.any test = false) : Run e c none := by
  obtain ⟨offset, rest⟩ := c
  cases rest with
  | nil => exact he.run_end offset
  | cons x rest => exact he.run_other offset rest h

/-- Refusing a class goes on where no character of it comes next, and fails elsewhere. -/
theorem run_reject (he : e.IsClass test) (c : Cursor) :
    Run (.reject e) c (if c.rest.head?.any test then none else some ([], c)) := by
  split
  · next h =>
    obtain ⟨offset, rest⟩ := c
    cases rest with
    | nil => exact absurd h Bool.false_ne_true
    | cons x rest => exact .reject_fail (he.run_match offset rest h)
  · next h => exact .reject_match (he.run_none (Bool.eq_false_iff.mpr h))

end IsClass

end Peg

end ShapeOutline
