import Mathlib
import ShapeOutline.Proofs.Guide.Operands
import ShapeOutline.Proofs.Guide.Peg

/-!
# The grammar of formulas

The guide language is given by a grammar of parsing expressions, with blanks allowed between the parts of a
formula but not within numbers, names and operators. What reading finds in a text is what the grammar
matches there: it fails on the texts that the grammar does not match, and else finds the operator and the
operands that stand in the parse tree.

* `Grammar.formula`: the rules of the guide language;
* `Tree.Denotes`, `Tree.Says`: the operand, and the operator with its operands, that a tree stands for;
* `Grammar.run_number`, `Grammar.run_operand`, `Grammar.run_operands`, `Grammar.run_operator`: each part is
  matched as it is read;
* `Grammar.Matches`, `Grammar.Reads`: the texts of the language and what they say;
* `Grammar.read_eq_ok_iff`, `Grammar.exists_read_error_iff`: reading finds what the text says, and fails
  where the grammar does not match;
* `Grammar.existsUnique_reads_iff`: a text of the language says one thing.
-/

namespace ShapeOutline

namespace Grammar

/-! ## The rules -/

/-- What may stand between the parts of a formula. -/
def blanks : Peg := .many (.choice (.text [' ']) (.text ['\t']))

/-- One behind the other, with blanks between. -/
def spaced (e f : Peg) : Peg := .seq e (.seq blanks f)

def sign : Peg := Peg.opt (.choice (.text ['-']) (.text ['+']))

def digits : Peg := Peg.oneOrMore (.one Char.isDigit)

def fraction : Peg := Peg.opt (.seq (.text ['.']) digits)

/-- No letter or underscore comes next. -/
def noLetter : Peg := .reject (.choice (.one Char.isAlpha) (.text ['_']))

def numeral : Peg := .seq sign (.seq digits (.seq fraction noLetter))

def number : Peg := .rule .number numeral

def nameChars : Peg := Peg.oneOrMore (.choice (.one Char.isAlphanum) (.text ['_']))

def name : Peg := .rule .name nameChars

def operand : Peg := .rule .operand (.choice number name)

def valFormula : Peg := .rule .valFormula (spaced (.text "val".toList) operand)

def operator : Peg := .rule .operator <| Peg.oneOf <| List.map String.toList <|
  ["*/", "+-", "+/", "?:", "abs", "at2", "cat2", "cos", "max", "min", "mod", "pin", "sat2", "sin", "sqrt",
    "tan"]

/-- Operands as long as there are any, with blanks between. -/
def operands : Peg := Peg.opt (.seq operand (.many (.seq blanks operand)))

def opFormula : Peg := .rule .opFormula (spaced operator operands)

/-- A whole text that is a formula. -/
def formula : Peg := .rule .formula <|
  spaced .front (spaced (.choice valFormula opFormula) (.rule .endOfText .back))

end Grammar

/-! ## What a tree stands for -/

section

variable {α : Type} [Scalar α]

/-- The operand that a node stands for: the number of its text, or a name with the bytes of the node. -/
inductive Tree.Denotes : Tree → Operand α → Prop
  | number {start stop i j : Nat} {chars text : List Char} {inner more : List Tree} (n : Numeral)
      (htext : n.chars = text) :
      Denotes (.node .operand start stop chars (.node .number i j text inner :: more))
        (.literal n.value)
  | name {start stop i j : Nat} {chars text : List Char} {inner more : List Tree} :
      Denotes (.node .operand start stop chars (.node .name i j text inner :: more))
        (.name (String.ofList text) start stop)

/-- The operator and the operands that a whole formula stands for. -/
inductive Tree.Says : Tree → Operator → List (Operand α) → Prop
  | val {start stop i j : Nat} {chars text : List Char} {operands more : List Tree}
      {args : List (Operand α)} (hargs : List.Forall₂ Tree.Denotes operands args) :
      Says (.node .formula start stop chars (.node .valFormula i j text operands :: more)) .val args
  | operator {start stop i j k l : Nat} {chars text token : List Char}
      {operands inner more : List Tree} {args : List (Operand α)} {op : Operator}
      (htoken : op.token.toList = token) (hargs : List.Forall₂ Tree.Denotes operands args) :
      Says (.node .formula start stop chars
        (.node .opFormula i j text (.node .operator k l token inner :: operands) :: more)) op args

theorem Tree.Denotes.unique {t : Tree} {arg arg' : Operand α} (h : t.Denotes arg)
    (h' : t.Denotes arg') : arg = arg' := by
  cases h with
  | number n htext =>
    cases h' with
    | number n' htext' =>
      have hends : Ends [] := fun c hc => nomatch hc
      have hparts : some (n.parts, ([] : List Char)) = some (n'.parts, []) := by
        rw [← n.number?_append hends, ← n'.number?_append hends, htext, htext']
      have hvalue : (n.value : α) = n'.value := by
        rw [← n.value_parts, ← n'.value_parts, (Prod.mk.inj (Option.some.inj hparts)).1]
      rw [hvalue]
  | name =>
    cases h'
    rfl

theorem Operator.token_injective {op op' : Operator} (h : op.token = op'.token) : op = op' := by
  have hmem (op : Operator) : op ∈ val :: listed := by cases op <;> decide
  have hnodup : ((val :: listed).map token).Nodup := by decide
  exact List.inj_on_of_nodup_map hnodup (hmem op) (hmem op') h

theorem Tree.Says.unique {t : Tree} {op op' : Operator} {args args' : List (Operand α)}
    (h : t.Says op args) (h' : t.Says op' args') : op = op' ∧ args = args' := by
  have hunique {ts : List Tree} {args args' : List (Operand α)}
      (h : List.Forall₂ Tree.Denotes ts args) (h' : List.Forall₂ Tree.Denotes ts args') :
      args = args' := by
    induction h generalizing args' with
    | nil =>
      cases h'
      rfl
    | cons harg _ ih =>
      cases h' with
      | cons harg' hargs' => rw [harg.unique harg', ih hargs']
  cases h with
  | val hargs =>
    cases h' with
    | val hargs' => exact ⟨rfl, hunique hargs hargs'⟩
  | operator htoken hargs =>
    cases h' with
    | operator htoken' hargs' =>
      exact ⟨Operator.token_injective (String.toList_inj.mp (htoken.trans htoken'.symm)),
        hunique hargs hargs'⟩

end

namespace Grammar

open Peg Formula

variable {α : Type} [Scalar α] {c d : Cursor}

/-! ## Blanks -/

theorem run_blanks (c : Cursor) : Run blanks c (some ([], c.skipBlanks)) :=
  ((isClass_text ' ').choice (isClass_text '\t')).run_many c

theorem run_spaced {e f : Peg} {c' : Cursor} {ts us : List Tree} (he : Run e c (some (ts, c')))
    (hf : Run f c'.skipBlanks (some (us, d))) : Run (spaced e f) c (some (ts ++ us, d)) :=
  .seq_match he (.seq_match (run_blanks c') hf)

theorem run_spaced_none {e f : Peg} {c' : Cursor} {ts : List Tree} (he : Run e c (some (ts, c')))
    (hf : Run f c'.skipBlanks none) : Run (spaced e f) c none :=
  .seq_second he (.seq_second (run_blanks c') hf)

/-! ## Numbers -/

theorem rest_after (c : Cursor) (taken rest : List Char) : (c.after taken rest).rest = rest := rfl

theorem after_after (c : Cursor) (taken more rest rest' : List Char) :
    (c.after taken rest').after more rest = c.after (taken ++ more) rest := by
  rw [Cursor.after, Cursor.after, Cursor.after, Cursor.bytes_append, Nat.add_assoc]

theorem run_sign (c : Cursor) :
    Run sign c (some ([], c.after (splitSign c.rest).1 (splitSign c.rest).2)) := by
  have hsign := (isClass_text '-').choice (isClass_text '+')
  obtain ⟨offset, rest⟩ := c
  dsimp only
  unfold splitSign
  split
  · exact run_opt (hsign.run_match offset _ rfl)
  · exact run_opt (hsign.run_match offset _ rfl)
  · next hminus hplus =>
    refine run_opt_none (hsign.run_none ?_)
    cases rest with
    | nil => rfl
    | cons x rest =>
      have hx : x ≠ '-' ∧ x ≠ '+' :=
        ⟨fun h => hminus rest (h ▸ rfl), fun h => hplus rest (h ▸ rfl)⟩
      exact Bool.or_eq_false_iff.mpr ⟨beq_false_of_ne hx.1, beq_false_of_ne hx.2⟩

theorem run_digits (c : Cursor) :
    Run digits c (if c.rest.takeWhile Char.isDigit = [] then none
      else some ([], c.after (c.rest.takeWhile Char.isDigit) (c.rest.dropWhile Char.isDigit))) :=
  (isClass_one Char.isDigit).run_oneOrMore c

theorem run_fraction (c : Cursor) :
    Run fraction c (some ([], c.after (splitFraction c.rest).1 (splitFraction c.rest).2)) := by
  have hpoint := isClass_text '.'
  obtain ⟨offset, rest⟩ := c
  dsimp only
  unfold splitFraction
  split
  · next rest =>
    have hone := hpoint.run_match offset rest (beq_self_eq_true '.')
    have hdigits := run_digits ⟨offset + '.'.utf8Size, rest⟩
    split
    · next hnone =>
      rw [if_pos hnone] at hdigits
      exact run_opt_none (.seq_second hone hdigits)
    · next hsome =>
      rw [if_neg hsome] at hdigits
      have hrun := run_opt (Run.seq_match hone hdigits)
      rwa [show (⟨offset + '.'.utf8Size, rest⟩ : Cursor)
        = (⟨offset, '.' :: rest⟩ : Cursor).after ['.'] rest from rfl, after_after] at hrun
  · next hother =>
    refine run_opt_none (.seq_first (hpoint.run_none ?_))
    cases rest with
    | nil => rfl
    | cons x rest => exact beq_false_of_ne fun h => hother rest (h ▸ rfl)

theorem run_noLetter (c : Cursor) :
    Run noLetter c (if c.rest.head?.any isNameLetter then none else some ([], c)) :=
  ((isClass_one Char.isAlpha).choice (isClass_text '_')).run_reject c

/-- A numeral is matched where a number is read. -/
theorem run_numeral (c : Cursor) :
    Run numeral c ((number? c.rest).map fun found => ([], c.after found.1.chars found.2)) := by
  have hsign := run_sign c
  unfold number?
  generalize splitSign c.rest = front at hsign ⊢
  obtain ⟨signChars, unsigned⟩ := front
  have hdigits := run_digits (c.after signChars unsigned)
  dsimp only at hsign ⊢
  rw [rest_after, after_after] at hdigits
  by_cases hwhole : unsigned.takeWhile Char.isDigit = []
  · rw [if_pos hwhole] at hdigits
    rw [hwhole]
    exact .seq_second hsign (.seq_first hdigits)
  · have hfraction := run_fraction
      (c.after (signChars ++ unsigned.takeWhile Char.isDigit) (unsigned.dropWhile Char.isDigit))
    rw [if_neg hwhole] at hdigits
    rw [rest_after, after_after] at hfraction
    generalize splitFraction (unsigned.dropWhile Char.isDigit) = back at hfraction ⊢
    obtain ⟨fractionChars, rest⟩ := back
    have hletter := run_noLetter
      (c.after (signChars ++ unsigned.takeWhile Char.isDigit ++ fractionChars) rest)
    rw [List.isEmpty_eq_false_iff.mpr hwhole, Bool.false_or]
    rw [rest_after] at hletter
    dsimp only at hfraction ⊢
    split at hletter
    · next h =>
      rw [if_pos h]
      exact .seq_second hsign (.seq_second hdigits (.seq_second hfraction hletter))
    · next h =>
      rw [if_neg h]
      exact .seq_match hsign (.seq_match hdigits (.seq_match hfraction hletter))

theorem run_number {rest : List Char} {n : NumberText} (h : number? c.rest = some (n, rest)) :
    Run number c (some ([.node .number c.offset (c.after n.chars rest).offset n.chars []],
      c.after n.chars rest)) := by
  have hrun := run_numeral c
  rw [h] at hrun
  exact .rule_match hrun (number?_eq_some h).1

theorem run_number_none (h : number? c.rest = none) : Run number c none := by
  have hrun := run_numeral c
  rw [h] at hrun
  exact .rule_fail hrun

/-! ## Operands -/

theorem run_name (c : Cursor) :
    Run nameChars c (if c.rest.takeWhile isNameChar = [] then none
      else some ([], c.after (c.rest.takeWhile isNameChar) (c.rest.dropWhile isNameChar))) :=
  ((isClass_one Char.isAlphanum).choice (isClass_text '_')).run_oneOrMore c

/-- An operand is matched where one is read, and stands in the tree. -/
theorem run_operand {arg : Operand α} (h : operand? c = some (arg, d)) :
    ∃ t : Tree, Run operand c (some ([t], d)) ∧ t.Denotes arg := by
  unfold operand? at h
  split at h
  · next n rest hnumber =>
    obtain ⟨rfl, rfl⟩ := Prod.mk.inj (Option.some.inj h)
    obtain ⟨m, rfl⟩ := exists_numeral hnumber
    refine ⟨_, .rule_match (.choice_first (run_number hnumber)) (number?_eq_some hnumber).1, ?_⟩
    rw [m.value_parts]
    exact .number m rfl
  · next hnumber =>
    have hname := run_name c
    dsimp only at h
    split at h
    · cases h
    · next hsome =>
      obtain ⟨rfl, rfl⟩ := Prod.mk.inj (Option.some.inj h)
      rw [if_neg (mt List.isEmpty_iff.mpr hsome)] at hname
      have hchars : c.rest = c.rest.takeWhile isNameChar ++ c.rest.dropWhile isNameChar :=
        List.takeWhile_append_dropWhile.symm
      exact ⟨_, .rule_match (.choice_second (run_number_none hnumber) (.rule_match hname hchars)) hchars,
        .name⟩

theorem run_operand_none (h : operand? (α := α) c = none) : Run operand c none := by
  unfold operand? at h
  split at h
  · cases h
  · next hnumber =>
    have hname := run_name c
    dsimp only at h
    split at h
    · next hnone =>
      rw [if_pos (List.isEmpty_iff.mp hnone)] at hname
      exact .rule_fail (.choice_second (run_number_none hnumber) (.rule_fail hname))
    · cases h

theorem length_lt_of_operand?_skipBlanks {arg : Operand α} (h : operand? c.skipBlanks = some (arg, d)) :
    d.rest.length < c.rest.length :=
  (length_lt_of_operand? h).trans_le c.length_skipBlanks_le

/-- Further operands, each with blanks in front, are matched as they are read. Where they end, reading has
also passed the blanks behind. -/
theorem run_more {fuel : Nat} (hfuel : c.rest.length ≤ fuel) :
    ∃ ts d, Run (.many (.seq blanks operand)) c (some (ts, d)) ∧
      d.skipBlanks = (Formula.operands (α := α) fuel c).2 ∧
      List.Forall₂ Tree.Denotes ts (Formula.operands (α := α) fuel c).1 := by
  induction fuel generalizing c with
  | zero =>
    have hnone : operand? (α := α) c.skipBlanks = none :=
      Option.eq_none_iff_forall_ne_some.mpr fun found h =>
        absurd (length_lt_of_operand?_skipBlanks h) (Nat.not_lt_of_le (hfuel.trans (Nat.zero_le _)))
    exact ⟨[], c, .many_stop (.seq_second (run_blanks c) (run_operand_none hnone)), rfl, .nil⟩
  | succ fuel ih =>
    rw [Formula.operands]
    cases hoperand : operand? (α := α) c.skipBlanks with
    | none =>
      exact ⟨[], c, .many_stop (.seq_second (run_blanks c) (run_operand_none hoperand)), rfl, .nil⟩
    | some found =>
      obtain ⟨arg, behind⟩ := found
      have hshorter := length_lt_of_operand?_skipBlanks hoperand
      obtain ⟨t, hrun, hdenotes⟩ := run_operand hoperand
      obtain ⟨ts, d, hmore, hstop, hargs⟩ := ih (c := behind) (by omega)
      exact ⟨t :: ts, d, .many_more (.seq_match (run_blanks c) hrun) hmore, hstop,
        .cons hdenotes hargs⟩

/-- All operands are matched as they are read, from behind the blanks in front of them. -/
theorem run_operands {fuel : Nat} (hfuel : c.rest.length ≤ fuel) :
    ∃ ts d, Run operands c.skipBlanks (some (ts, d)) ∧
      d.skipBlanks = (Formula.operands (α := α) fuel c).2 ∧
      List.Forall₂ Tree.Denotes ts (Formula.operands (α := α) fuel c).1 := by
  obtain ⟨ts, d, hrun, hstop, hargs⟩ := run_more (α := α) hfuel
  -- the first operand has its blanks passed before the repetition begins
  cases hrun with
  | many_stop hnone =>
    have hoperand : Run operand c.skipBlanks none := by
      cases hnone with
      | seq_first hblanks => cases hblanks.deterministic (run_blanks c)
      | seq_second hblanks hoperand =>
        cases hblanks.deterministic (run_blanks c)
        exact hoperand
    exact ⟨[], _, run_opt_none (.seq_first hoperand), c.skipBlanks_skipBlanks.trans hstop, hargs⟩
  | many_more hone hmore =>
    cases hone with
    | seq_match hblanks hoperand =>
      cases hblanks.deterministic (run_blanks c)
      exact ⟨_, d, .choice_first (.seq_match hoperand hmore), hstop, hargs⟩

/-! ## Operators -/

theorem not_prefix_of_behindToken? {token cs : List Char} (h : behindToken? token cs = none) :
    ¬ token <+: cs := by
  unfold behindToken? at h
  split at h
  · cases h
  · next hother => exact mt List.isPrefixOf_iff_prefix.mpr hother

theorem run_token (ops : List Operator) (c : Cursor) :
    Run (Peg.oneOf (ops.map fun op => op.token.toList)) c
      ((ops.findSome? fun op => (behindToken? op.token.toList c.rest).map fun rest =>
        (op, c.after op.token.toList rest)).map fun found => ([], found.2)) := by
  induction ops with
  | nil => exact .reject_fail (run_text_nil c)
  | cons op ops ih =>
    rw [List.findSome?_cons]
    cases hbehind : behindToken? op.token.toList c.rest with
    | some rest => exact .choice_first (.text_match (behindToken?_eq_some hbehind))
    | none => exact .choice_second (.text_other (not_prefix_of_behindToken? hbehind)) ih

/-- An operator is matched where one is read, with its token in the tree. -/
theorem run_operator {op : Operator} (h : operator? c = some (op, d)) :
    Run operator c (some ([.node .operator c.offset d.offset op.token.toList []], d)) := by
  have hrun := run_token Operator.listed c
  rw [show Operator.listed.findSome? _ = some (op, d) from h] at hrun
  exact .rule_match hrun (operator?_eq_some h).1

theorem run_operator_none (h : operator? c = none) : Run operator c none := by
  have hrun := run_token Operator.listed c
  rw [show Operator.listed.findSome? _ = none from h] at hrun
  exact .rule_fail hrun

/-- Where a value begins there is no operator. -/
theorem operator?_val {rest : List Char} (h : c.rest = Operator.val.token.toList ++ rest) :
    operator? c = none := by
  unfold operator?
  rw [h]
  rfl

/-! ## Whole formulas -/

/-- The grammar matches the text. -/
def Matches (text : String) : Prop :=
  ∃ ts d, Run formula ⟨0, text.toList⟩ (some (ts, d))

/-- The grammar matches the text, and its tree stands for the operator and the operands. -/
def Reads (text : String) (op : Operator) (args : List (Operand α)) : Prop :=
  ∃ t d, Run formula ⟨0, text.toList⟩ (some ([t], d)) ∧ t.Says op args

theorem run_valFormula {rest : List Char} {arg : Operand α}
    (hval : c.rest = Operator.val.token.toList ++ rest)
    (harg : operand? (behindVal c rest) = some (arg, d)) :
    ∃ t chars, Run valFormula c (some ([.node .valFormula c.offset d.offset chars [t]], d)) ∧
      t.Denotes arg := by
  obtain ⟨t, hrun, hdenotes⟩ := run_operand harg
  obtain ⟨chars, hnode⟩ := Run.exists_node (run_spaced (.text_match hval) hrun)
  exact ⟨t, chars, hnode, hdenotes⟩

theorem run_valFormula_none (h : behindToken? Operator.val.token.toList c.rest = none) :
    Run valFormula c none :=
  .rule_fail (.seq_first (.text_other (not_prefix_of_behindToken? h)))

theorem run_opFormula {op : Operator} {behind stop : Cursor} {args : List (Operand α)}
    (hop : operator? c = some (op, behind))
    (hargs : Formula.operands behind.rest.length behind = (args, stop)) :
    ∃ ts d chars, Run opFormula c (some ([.node .opFormula c.offset d.offset chars
        (.node .operator c.offset behind.offset op.token.toList [] :: ts)], d)) ∧
      d.skipBlanks = stop ∧ List.Forall₂ Tree.Denotes ts args := by
  obtain ⟨ts, d, hrun, hstop, hdenotes⟩ := run_operands (α := α) (Nat.le_refl behind.rest.length)
  rw [hargs] at hstop hdenotes
  obtain ⟨chars, hnode⟩ := Run.exists_node (run_spaced (run_operator hop) hrun)
  exact ⟨ts, d, chars, hnode, hstop, hdenotes⟩

section

variable {text : String}

/-- The grammar matches a text whose formula is followed by blanks only. -/
theorem run_formula {body : Tree}
    (hbody : Run (.choice valFormula opFormula) (Cursor.mk 0 text.toList).skipBlanks (some ([body], d)))
    (hend : d.skipBlanks.rest = []) :
    ∃ i chars more, Run formula ⟨0, text.toList⟩
      (some ([.node .formula 0 i chars (body :: more)], d.skipBlanks)) := by
  obtain ⟨blank, hback⟩ := Run.exists_node (r := .endOfText) (.back_match hend)
  obtain ⟨chars, hnode⟩ := Run.exists_node (r := .formula)
    (run_spaced (c := ⟨0, text.toList⟩) (.front_match rfl) (run_spaced hbody hback))
  exact ⟨_, chars, _, hnode⟩

theorem run_formula_none
    (hbody : Run (.choice valFormula opFormula) (Cursor.mk 0 text.toList).skipBlanks none) :
    Run formula ⟨0, text.toList⟩ none :=
  .rule_fail (run_spaced_none (.front_match rfl) (.seq_first hbody))

theorem run_formula_more {ts : List Tree}
    (hbody : Run (.choice valFormula opFormula) (Cursor.mk 0 text.toList).skipBlanks (some (ts, d)))
    (hmore : d.skipBlanks.rest ≠ []) : Run formula ⟨0, text.toList⟩ none :=
  .rule_fail (run_spaced_none (.front_match rfl)
    (run_spaced_none hbody (.rule_fail (.back_other hmore))))

/-- What reading comes to agrees with the grammar. -/
theorem run_of_read (text : String) :
    (∀ op args, read text = .ok (op, args) → Reads (α := α) text op args) ∧
      ∀ e, (read text : Except _ (Operator × List (Operand α))) = .error e →
        Run formula ⟨0, text.toList⟩ none := by
  have hread := read_outcome (α := α) text
  generalize (read text : Except _ (Operator × List (Operand α))) = result at hread ⊢
  cases hread with
  | noValue hval hnone =>
    refine ⟨nofun, fun _ _ => run_formula_none (.choice_second ?_ ?_)⟩
    · exact .rule_fail (run_spaced_none (.text_match hval) (run_operand_none hnone))
    · exact .rule_fail (.seq_first (run_operator_none (operator?_val hval)))
  | valueAndMore hval hsome hmore =>
    obtain ⟨t, chars, hrun, -⟩ := run_valFormula hval hsome
    exact ⟨nofun, fun _ _ => run_formula_more (.choice_first hrun) hmore⟩
  | value hval hsome hend =>
    obtain ⟨t, chars, hrun, hdenotes⟩ := run_valFormula hval hsome
    obtain ⟨i, chars', more, hformula⟩ := run_formula (.choice_first hrun) hend
    refine ⟨fun op args heq => ?_, nofun⟩
    cases heq
    exact ⟨_, _, hformula, .val (.cons hdenotes .nil)⟩
  | noOperator hval hnone =>
    refine ⟨nofun, fun _ _ => run_formula_none (.choice_second (run_valFormula_none hval) ?_)⟩
    exact .rule_fail (.seq_first (run_operator_none hnone))
  | operatorAndMore hval hsome hargs hmore =>
    obtain ⟨ts, d, chars, hrun, rfl, -⟩ := run_opFormula hsome hargs
    have hbody := Run.choice_second (run_valFormula_none hval) hrun
    exact ⟨nofun, fun _ _ => run_formula_more hbody hmore⟩
  | operator hval hsome hargs hend =>
    obtain ⟨ts, d, chars, hrun, rfl, hdenotes⟩ := run_opFormula hsome hargs
    have hbody := Run.choice_second (run_valFormula_none hval) hrun
    obtain ⟨i, chars', more, hformula⟩ := run_formula hbody hend
    refine ⟨fun op args heq => ?_, nofun⟩
    cases heq
    exact ⟨_, _, hformula, .operator rfl hdenotes⟩

/-- Reading fails where the grammar does not match. -/
theorem exists_read_error_iff :
    (∃ e, (read text : Except _ (Operator × List (Operand α))) = .error e) ↔ ¬ Matches text := by
  constructor
  · rintro ⟨e, hread⟩ ⟨ts, d, hrun⟩
    cases hrun.deterministic ((run_of_read (α := α) text).2 e hread)
  · intro hnone
    cases hread : (read text : Except _ (Operator × List (Operand α))) with
    | error e => exact ⟨e, rfl⟩
    | ok found =>
      obtain ⟨t, d, hrun, -⟩ := (run_of_read text).1 found.1 found.2 hread
      exact absurd ⟨[t], d, hrun⟩ hnone

/-- Reading finds the operator and the operands that the text says. -/
theorem read_eq_ok_iff {op : Operator} {args : List (Operand α)} :
    read text = .ok (op, args) ↔ Reads text op args := by
  refine ⟨(run_of_read text).1 op args, fun hreads => ?_⟩
  obtain ⟨t, d, hrun, hsays⟩ := hreads
  cases hread : (read text : Except _ (Operator × List (Operand α))) with
  | error e => cases hrun.deterministic ((run_of_read (α := α) text).2 e hread)
  | ok found =>
    obtain ⟨t', d', hrun', hsays'⟩ := (run_of_read text).1 found.1 found.2 hread
    cases hrun.deterministic hrun'
    obtain ⟨rfl, rfl⟩ := hsays.unique hsays'
    rfl

/-- A text that the grammar matches says one thing. -/
theorem existsUnique_reads_iff :
    (∃! found : Operator × List (Operand α), Reads text found.1 found.2) ↔ Matches text := by
  constructor
  · rintro ⟨found, ⟨t, d, hrun, -⟩, -⟩
    exact ⟨[t], d, hrun⟩
  · intro hmatches
    cases hread : (read text : Except _ (Operator × List (Operand α))) with
    | error e => exact absurd hmatches (exists_read_error_iff.mp ⟨e, hread⟩)
    | ok found =>
      refine ⟨found, read_eq_ok_iff.mp hread, fun found' hreads => ?_⟩
      exact Except.ok.inj ((read_eq_ok_iff.mpr hreads).symm.trans hread)

end

end Grammar

end ShapeOutline
