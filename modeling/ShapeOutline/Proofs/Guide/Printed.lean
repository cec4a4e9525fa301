import Mathlib
import ShapeOutline.Proofs.Guide.Operands

/-!
# Reading what is written

A formula is written as the token of its operator and the texts of its operands, with blanks between them
and maybe some in front and behind. Reading it gives back the operator and the operands, in order.

* `Blanks`, `Gap`, `Layout`: the blanks of a formula;
* `Layout.text`, `placed`: a written formula, and its operands with their places in the text;
* `operands_placed`: the operands are read back one after the other;
* `Operator.operator?_token`: no operator is taken for another;
* `Layout.parse_text`: parsing undoes writing.
-/

namespace ShapeOutline

/-- Some spaces and tabs, or none. -/
structure Blanks where
  chars : List Char
  isBlank : ∀ c ∈ chars, Cursor.isBlank c = true

/-- At least one space or tab. -/
structure Gap extends Blanks where
  ne_nil : chars ≠ []

/-- A written formula: its operator, as many operands as it takes with the gap in front of each, and the
blanks in front and behind. -/
structure Layout where
  op : Operator
  args : List (Gap × OperandText)
  front : Blanks
  back : Blanks
  length_args : args.length = op.arity

/-- Operands with their gaps. -/
def argChars (args : List (Gap × OperandText)) : List Char :=
  args.flatMap fun arg => arg.1.chars ++ arg.2.chars

namespace Layout

def chars (f : Layout) : List Char :=
  f.front.chars ++ (f.op.token.toList ++ (argChars f.args ++ f.back.chars))

/-- The text of a written formula. -/
def text (f : Layout) : String := String.ofList f.chars

end Layout

section

variable {α : Type} [Scalar α]

/-- The operands that are written from some place on, names with their places. -/
def placed : Nat → List (Gap × OperandText) → List (Operand α)
  | _, [] => []
  | start, (gap, arg) :: rest =>
    arg.operand (start + Cursor.bytes gap.chars) ::
      placed (start + Cursor.bytes gap.chars + Cursor.bytes arg.chars) rest

/-! ## Blanks -/

theorem Cursor.skipBlanks_append {blanks rest : List Char} (start : Nat)
    (hblanks : ∀ c ∈ blanks, isBlank c = true) (hrest : ∀ c ∈ rest.head?, isBlank c = false) :
    (Cursor.mk start (blanks ++ rest)).skipBlanks = ⟨start + bytes blanks, rest⟩ := by
  obtain ⟨htake, hdrop⟩ := span_append hblanks hrest
  rw [skipBlanks, htake, hdrop]
  rfl

/-- Behind the blanks at the end there is nothing. -/
theorem Blanks.skipBlanks_eq (back : Blanks) (start : Nat) :
    (Cursor.mk start back.chars).skipBlanks = ⟨start + Cursor.bytes back.chars, []⟩ := by
  have hnone : ∀ c ∈ ([] : List Char).head?, Cursor.isBlank c = false := fun c hc => nomatch hc
  have hskip := Cursor.skipBlanks_append start back.isBlank hnone
  rwa [List.append_nil] at hskip

theorem OperandText.head?_append (arg : OperandText) (rest : List Char) :
    ∀ c ∈ (arg.chars ++ rest).head?, Cursor.isBlank c = false := by
  obtain ⟨x, more, hchars, hx⟩ := arg.exists_head
  intro c hc
  rw [hchars] at hc
  rw [← Option.some.inj hc]
  exact hx

/-- Behind an operand comes the next gap, the blanks at the end, or nothing. -/
theorem ends_argChars (args : List (Gap × OperandText)) (back : Blanks) :
    Ends (argChars args ++ back.chars) := by
  intro c hc
  cases args with
  | nil => exact back.isBlank c (List.mem_of_mem_head? hc)
  | cons arg args =>
    obtain ⟨x, more, hgap⟩ := List.exists_cons_of_ne_nil arg.1.ne_nil
    have hhead : (argChars (arg :: args) ++ back.chars).head? = some x := by
      rw [argChars, List.flatMap_cons, hgap]
      rfl
    rw [hhead] at hc
    rw [← Option.some.inj hc]
    exact arg.1.isBlank x (hgap ▸ List.mem_cons_self)

/-! ## Operands -/

/-- Operands that are written one after the other are read back, if as many are looked for. -/
theorem operands_placed (args : List (Gap × OperandText)) (back : Blanks) {fuel : Nat}
    (hfuel : args.length ≤ fuel) (start : Nat) :
    (Formula.operands (α := α) fuel ⟨start, argChars args ++ back.chars⟩).1 = placed start args ∧
      (Formula.operands (α := α) fuel ⟨start, argChars args ++ back.chars⟩).2.rest = [] := by
  induction args generalizing fuel start with
  | nil =>
    have hskip : (Cursor.mk start (argChars [] ++ back.chars)).skipBlanks
        = ⟨start + Cursor.bytes back.chars, []⟩ := back.skipBlanks_eq start
    cases fuel with
    | zero =>
      rw [Formula.operands, hskip]
      exact ⟨rfl, rfl⟩
    | succ fuel =>
      rw [Formula.operands, hskip]
      exact ⟨rfl, rfl⟩
  | cons arg args ih =>
    obtain ⟨gap, arg⟩ := arg
    cases fuel with
    | zero => exact absurd hfuel (Nat.not_succ_le_zero _)
    | succ fuel =>
      have hchars : argChars ((gap, arg) :: args) ++ back.chars
          = gap.chars ++ (arg.chars ++ (argChars args ++ back.chars)) := by
        rw [argChars, List.flatMap_cons, List.append_assoc, List.append_assoc]
        rfl
      obtain ⟨hrest, hstop⟩ := ih (Nat.le_of_succ_le_succ hfuel)
        (start + Cursor.bytes gap.chars + Cursor.bytes arg.chars)
      rw [Formula.operands, hchars,
        Cursor.skipBlanks_append start gap.isBlank (arg.head?_append _),
        arg.operand?_append (ends_argChars args back)]
      dsimp only
      rw [hrest]
      exact ⟨rfl, hstop⟩

theorem length_le_argChars (args : List (Gap × OperandText)) : args.length ≤ (argChars args).length := by
  induction args with
  | nil => exact Nat.le_refl 0
  | cons arg args ih =>
    have hgap := List.length_pos_of_ne_nil arg.1.ne_nil
    rw [argChars, List.flatMap_cons, List.length_append, List.length_append, List.length_cons]
    rw [argChars] at ih
    omega

/-! ## Operators -/

namespace Operator

/-- A formula of another operator is not taken for a value. -/
theorem behindToken?_val {op : Operator} (hop : op ≠ val) (rest : List Char) :
    Formula.behindToken? val.token.toList (op.token.toList ++ rest) = none := by
  cases op with
  | val => exact absurd rfl hop
  | _ => rfl

theorem behindToken?_append (op : Operator) (rest : List Char) :
    Formula.behindToken? op.token.toList (op.token.toList ++ rest) = some rest := by
  cases op <;> rfl

/-- No operator is taken for another. -/
theorem operator?_token {op : Operator} (hop : op ≠ val) (start : Nat) (rest : List Char) :
    Formula.operator? ⟨start, op.token.toList ++ rest⟩
      = some (op, ⟨start + Cursor.bytes op.token.toList, rest⟩) := by
  cases op with
  | val => exact absurd rfl hop
  | _ => rfl

theorem head?_token (op : Operator) (rest : List Char) :
    ∀ c ∈ (op.token.toList ++ rest).head?, Cursor.isBlank c = false := by
  intro c hc
  cases op <;> · rw [← Option.some.inj hc]; decide

end Operator

/-! ## Formulas -/

namespace Layout

variable (f : Layout)

/-- The operands of a written formula, names with their places in its text. -/
def operands : List (Operand α) :=
  placed (Cursor.bytes f.front.chars + Cursor.bytes f.op.token.toList) f.args

theorem length_operands : (f.operands : List (Operand α)).length = f.op.arity := by
  have hplaced (args : List (Gap × OperandText)) (start : Nat) :
      (placed start args : List (Operand α)).length = args.length := by
    induction args generalizing start with
    | nil => rfl
    | cons arg args ih => exact congrArg (· + 1) (ih _)
  rw [operands, hplaced, f.length_args]

theorem skipBlanks_text :
    (Cursor.mk 0 f.text.toList).skipBlanks
      = ⟨Cursor.bytes f.front.chars, f.op.token.toList ++ (argChars f.args ++ f.back.chars)⟩ := by
  have htext : f.text.toList = f.chars := String.toList_ofList
  rw [htext, chars, Cursor.skipBlanks_append 0 f.front.isBlank (f.op.head?_token _), Nat.zero_add]

/-- Reading finds the operator and the operands of a written formula. -/
theorem read_text : Formula.read f.text = .ok (f.op, (f.operands : List (Operand α))) := by
  unfold Formula.read
  rw [f.skipBlanks_text]
  dsimp only
  by_cases hop : f.op = .val
  · -- one operand, and no further one is looked for
    obtain ⟨⟨gap, arg⟩, hargs⟩ : ∃ arg, f.args = [arg] :=
      List.length_eq_one_iff.mp (f.length_args.trans (by rw [hop]; rfl))
    have hback : Ends f.back.chars := ends_argChars [] f.back
    have hchars : argChars [(gap, arg)] ++ f.back.chars
        = gap.chars ++ (arg.chars ++ f.back.chars) := by
      rw [argChars, List.flatMap_singleton, List.append_assoc]
    rw [operands, hop, hargs, Operator.behindToken?_append]
    dsimp only [Cursor.after]
    rw [hchars, Cursor.skipBlanks_append _ gap.isBlank (arg.head?_append _),
      arg.operand?_append hback]
    dsimp only
    rw [f.back.skipBlanks_eq]
    rfl
  · rw [Operator.behindToken?_val hop, Operator.operator?_token hop]
    dsimp only
    have hfuel : f.args.length ≤ (argChars f.args ++ f.back.chars).length := by
      rw [List.length_append]
      exact Nat.le_add_right_of_le (length_le_argChars f.args)
    obtain ⟨hargs, hstop⟩ := operands_placed (α := α) f.args f.back hfuel
      (Cursor.bytes f.front.chars + Cursor.bytes f.op.token.toList)
    rw [hargs, hstop]
    rfl

/-- Parsing undoes writing: what is written of an operator and of as many operands as it takes is parsed
as that operator and those operands, in order, wherever the blanks stand. A numeral is read as the number
it stands for, which over the real numbers is its whole part and its fraction together with its sign, and
a name with the place where it stands in the text. -/
theorem parse_text (guide : String) :
    Formula.parse (α := α) guide f.text = .ok ⟨guide, f.text, f.op, f.operands⟩ ∧
      (∀ n start stop, .name n start stop ∈ (f.operands : List (Operand α)) →
        Cuts f.text start stop n) ∧
      ∀ n : Numeral, (n.value : ℝ) = (if n.sign = some .minus then -1 else 1) *
        (digitsValue n.whole + digitsValue n.fraction / 10 ^ n.fraction.length) := by
  refine ⟨?_, Formula.read_names_cut f.read_text, Numeral.value_eq⟩
  unfold Formula.parse
  rw [f.read_text]
  exact if_pos f.length_operands

end Layout

end

end ShapeOutline
