import Mathlib
import ShapeOutline.Proofs.Guide.Grammar

/-!
# What becomes of a formula

The text of a formula has a value, or there is one reason why it has none, and the reasons come in an
order: the grammar does not match the text; the operator takes another number of operands; an operand is a
name that stands for no angle, and the first such operand is told; the value is not finite. The operator
is only applied to as many values as it takes, and whatever is marked in the text lies in it.

* `angles`, `Operand.HasValue`, `FirstUnresolved`: which operands have a value;
* `Formula.mapM_operandValue_eq_ok_iff`, `Formula.mapM_operandValue_eq_error_iff`: the values of all
  operands, or the first operand without one;
* `Operator.exists_value?`: an operator has a value on as many values as it takes;
* `Verdict`, `guideValue_verdict`: each value and each fault with exactly the texts that lead to it.
-/

namespace ShapeOutline

/-! ## Lists -/

section

variable {ε β γ : Type} {f : β → Except ε γ}

/-- A list is mapped to results when each of its elements is. -/
theorem mapM_eq_ok_iff {xs : List β} {ys : List γ} :
    xs.mapM f = .ok ys ↔ List.Forall₂ (fun x y => f x = .ok y) xs ys := by
  induction xs generalizing ys with
  | nil =>
    rw [List.forall₂_nil_left_iff]
    exact ⟨fun h => (Except.ok.inj h).symm, fun h => h ▸ rfl⟩
  | cons x xs ih =>
    rw [List.mapM_cons, List.forall₂_cons_left_iff]
    constructor
    · intro h
      cases hx : f x with
      | error e => rw [hx] at h; cases h
      | ok y =>
        cases hxs : xs.mapM f with
        | error e => rw [hx, hxs] at h; cases h
        | ok tail =>
          rw [hx, hxs] at h
          exact ⟨y, tail, rfl, ih.mp hxs, (Except.ok.inj h).symm⟩
    · rintro ⟨y, tail, hx, hxs, rfl⟩
      rw [hx, ih.mpr hxs]
      rfl

/-- Mapping a list fails as the first of its elements that does. -/
theorem mapM_eq_error_iff {xs : List β} {e : ε} :
    xs.mapM f = .error e ↔ ∃ before x behind, xs = before ++ x :: behind ∧ f x = .error e ∧
      ∀ y ∈ before, ∃ v, f y = .ok v := by
  induction xs with
  | nil =>
    refine ⟨nofun, ?_⟩
    rintro ⟨before, x, behind, hxs, -⟩
    exact absurd hxs.symm (List.append_ne_nil_of_right_ne_nil _ (List.cons_ne_nil _ _))
  | cons x xs ih =>
    rw [List.mapM_cons]
    cases hx : f x with
    | error e' =>
      show Except.error e' = (Except.error e : Except ε (List γ)) ↔ _
      constructor
      · intro h
        obtain rfl := Except.error.inj h
        exact ⟨[], x, xs, rfl, hx, fun y hy => nomatch hy⟩
      · rintro ⟨_ | ⟨y, before⟩, x', behind, hxs, hx', hbefore⟩ <;>
          obtain ⟨rfl, -⟩ := List.cons.inj hxs
        · rw [Except.error.inj (hx.symm.trans hx')]
        · obtain ⟨v, hv⟩ := hbefore x List.mem_cons_self
          cases hx.symm.trans hv
    | ok y =>
      have hmore : (do let ys ← xs.mapM f; pure (y :: ys)) = (Except.error e : Except ε (List γ)) ↔
          xs.mapM f = .error e := by
        cases xs.mapM f with
        | error e' =>
          exact ⟨fun h => congrArg _ (Except.error.inj h), fun h => congrArg _ (Except.error.inj h)⟩
        | ok ys => exact ⟨nofun, nofun⟩
      refine hmore.trans (ih.trans ?_)
      constructor
      · rintro ⟨before, x', behind, rfl, hx', hbefore⟩
        exact ⟨x :: before, x', behind, rfl, hx',
          List.forall_mem_cons.mpr ⟨⟨y, hx⟩, hbefore⟩⟩
      · rintro ⟨_ | ⟨y', before⟩, x', behind, hxs, hx', hbefore⟩ <;>
          obtain ⟨rfl, rfl⟩ := List.cons.inj hxs
        · cases hx.symm.trans hx'
        · exact ⟨before, x', behind, rfl, hx', (List.forall_mem_cons.mp hbefore).2⟩

end

variable {α : Type} [Scalar α]

/-! ## Operands -/

/-- The names of angles, with the angles in 60000ths of a degree. -/
def angles : List (String × α) :=
  [("cd2", 10800000), ("cd4", 5400000), ("cd8", 2700000), ("3cd4", 16200000), ("3cd8", 8100000),
    ("5cd8", 13500000), ("7cd8", 18900000)]

/-- The value of an operand: the number itself, or the angle of that name. -/
inductive Operand.HasValue : Operand α → α → Prop
  | literal (v : α) : HasValue (.literal v) v
  | angle {n : String} {start stop : Nat} {v : α} (h : (n, v) ∈ angles) :
      HasValue (.name n start stop) v

/-- Of some operands, the first that has no value is the name at the given bytes. -/
def FirstUnresolved (args : List (Operand α)) (n : String) (start stop : Nat) : Prop :=
  ∃ before behind, args = before ++ .name n start stop :: behind ∧
    (∀ v : α, (n, v) ∉ angles) ∧ ∀ arg ∈ before, ∃ v, arg.HasValue v

namespace Formula

theorem angleConstant?_eq_some_iff {n : String} {v : α} :
    angleConstant? n = some v ↔ (n, v) ∈ angles := by
  unfold angleConstant? angles
  split <;> simp_all [eq_comm]

theorem operandValue_eq_ok_iff {arg : Operand α} {v : α} :
    operandValue arg = .ok v ↔ arg.HasValue v := by
  cases arg with
  | literal w =>
    constructor
    · intro h
      obtain rfl := Except.ok.inj h
      exact .literal w
    · intro h
      cases h
      rfl
  | name n start stop =>
    rw [operandValue]
    constructor
    · intro h
      split at h
      · next hangle =>
        cases h
        exact .angle (angleConstant?_eq_some_iff.mp hangle)
      · cases h
    · intro h
      cases h with
      | angle h => rw [angleConstant?_eq_some_iff.mpr h]

theorem operandValue_eq_error_iff {arg : Operand α} {fault : GuideFault} :
    operandValue arg = .error fault ↔ ∃ n start stop, arg = .name n start stop ∧
      (∀ v : α, (n, v) ∉ angles) ∧ fault = .unresolvedOperand n start stop := by
  cases arg with
  | literal w => exact ⟨nofun, nofun⟩
  | name n start stop =>
    rw [operandValue]
    split
    · next v hangle =>
      refine ⟨nofun, ?_⟩
      rintro ⟨_, _, _, heq, hnone, -⟩
      cases heq
      exact absurd (angleConstant?_eq_some_iff.mp hangle) (hnone v)
    · next hangle =>
      constructor
      · intro h
        refine ⟨n, start, stop, rfl, fun v hv => ?_, (Except.error.inj h).symm⟩
        rw [angleConstant?_eq_some_iff.mpr hv] at hangle
        cases hangle
      · rintro ⟨_, _, _, heq, -, rfl⟩
        cases heq
        rfl

theorem mapM_operandValue_eq_ok_iff {args : List (Operand α)} {values : List α} :
    args.mapM operandValue = .ok values ↔ List.Forall₂ Operand.HasValue args values := by
  simp only [mapM_eq_ok_iff, operandValue_eq_ok_iff]

theorem mapM_operandValue_eq_error_iff {args : List (Operand α)} {fault : GuideFault} :
    args.mapM operandValue = .error fault ↔
      ∃ n start stop, FirstUnresolved args n start stop ∧ fault = .unresolvedOperand n start stop := by
  simp only [mapM_eq_error_iff, operandValue_eq_ok_iff, operandValue_eq_error_iff]
  constructor
  · rintro ⟨before, _, behind, hargs, ⟨n, start, stop, rfl, hnone, rfl⟩, hbefore⟩
    exact ⟨n, start, stop, ⟨before, behind, hargs, hnone, hbefore⟩, rfl⟩
  · rintro ⟨n, start, stop, ⟨before, behind, hargs, hnone, hbefore⟩, rfl⟩
    exact ⟨before, _, behind, hargs, ⟨n, start, stop, rfl, hnone, rfl⟩, hbefore⟩

end Formula

/-! ## Operators -/

/-- An operator has a value on as many values as it takes. -/
theorem Operator.exists_value? {op : Operator} {values : List α} (h : values.length = op.arity) :
    ∃ v, op.value? values = some v := by
  rcases values with _ | ⟨x, _ | ⟨y, _ | ⟨z, _ | ⟨_, _⟩⟩⟩⟩ <;> cases op <;>
    first
    | exact ⟨_, rfl⟩
    | simp [arity] at h

/-! ## Formulas -/

open Grammar

section

variable {guide text : String} {op : Operator} {args : List (Operand α)} {values : List α} {v : α}

theorem guideValue_of_not_matches (h : ¬ Matches text) :
    ∃ expected offset,
      (guideValue guide text : Except _ α) = .error ⟨guide, text, .malformed expected offset⟩ := by
  obtain ⟨⟨expected, offset⟩, hread⟩ := exists_read_error_iff (α := α).mpr h
  refine ⟨expected, offset, ?_⟩
  rw [guideValue, Formula.parse, hread]
  rfl

theorem guideValue_of_arity (h : Reads text op args) (hlength : args.length ≠ op.arity) :
    (guideValue guide text : Except _ α) = .error ⟨guide, text, .arity op args.length⟩ := by
  rw [guideValue, Formula.parse, read_eq_ok_iff.mpr h]
  dsimp only
  rw [if_neg hlength]
  rfl

theorem guideValue_of_reads (h : Reads text op args) (hlength : args.length = op.arity) :
    guideValue guide text = (Formula.valueOf op args).mapError fun fault => ⟨guide, text, fault⟩ := by
  rw [guideValue, Formula.parse, read_eq_ok_iff.mpr h]
  dsimp only
  rw [if_pos hlength]
  rfl

theorem guideValue_of_unresolved (h : Reads text op args) (hlength : args.length = op.arity)
    {n : String} {start stop : Nat} (hfirst : FirstUnresolved args n start stop) :
    (guideValue guide text : Except _ α) = .error ⟨guide, text, .unresolvedOperand n start stop⟩ := by
  have hvalues := Formula.mapM_operandValue_eq_error_iff.mpr ⟨n, start, stop, hfirst, rfl⟩
  rw [guideValue_of_reads h hlength, Formula.valueOf, hvalues]
  rfl

theorem guideValue_of_value (h : Reads text op args) (hlength : args.length = op.arity)
    (hvalues : List.Forall₂ Operand.HasValue args values) (hvalue : op.value? values = some v) :
    guideValue guide text
      = if Scalar.isFinite v then .ok v else .error ⟨guide, text, .nonFinite⟩ := by
  rw [guideValue_of_reads h hlength, Formula.valueOf, Formula.mapM_operandValue_eq_ok_iff.mpr hvalues]
  dsimp only [bind, Except.bind]
  rw [hvalue]
  dsimp only
  split <;> rfl

end

/-- What becomes of a text, with what its formula was found to be on the way. -/
inductive Graded (guide text : String) : Except GuideError α → Prop
  | malformed {expected : Expected} {offset : Nat} (h : ¬ Matches text)
      (hoffset : offset ≤ text.utf8ByteSize) :
      Graded guide text (.error ⟨guide, text, .malformed expected offset⟩)
  | arity {op : Operator} {args : List (Operand α)} (h : Reads text op args)
      (hlength : args.length ≠ op.arity) :
      Graded guide text (.error ⟨guide, text, .arity op args.length⟩)
  | unresolved {op : Operator} {args : List (Operand α)} {n : String} {start stop : Nat}
      (h : Reads text op args) (hlength : args.length = op.arity)
      (hfirst : FirstUnresolved args n start stop) :
      Graded guide text (.error ⟨guide, text, .unresolvedOperand n start stop⟩)
  | nonFinite {op : Operator} {args : List (Operand α)} {values : List α} {v : α}
      (h : Reads text op args) (hlength : args.length = op.arity)
      (hvalues : List.Forall₂ Operand.HasValue args values) (hvalue : op.value? values = some v)
      (hfinite : Scalar.isFinite v = false) : Graded guide text (.error ⟨guide, text, .nonFinite⟩)
  | ok {op : Operator} {args : List (Operand α)} {values : List α} {v : α}
      (h : Reads text op args) (hlength : args.length = op.arity)
      (hvalues : List.Forall₂ Operand.HasValue args values) (hvalue : op.value? values = some v)
      (hfinite : Scalar.isFinite v = true) : Graded guide text (.ok v)

/-- An operator is applied only to as many values as it takes. -/
theorem exists_value_of_arity {op : Operator} {args : List (Operand α)} {values : List α}
    (hlength : args.length = op.arity) (hvalues : List.Forall₂ Operand.HasValue args values) :
    ∃ v, op.value? values = some v :=
  Operator.exists_value? (hvalues.length_eq.symm.trans hlength)

theorem guideValue_graded (guide text : String) :
    Graded guide text (guideValue guide text : Except GuideError α) := by
  cases hread : (Formula.read text : Except _ (Operator × List (Operand α))) with
  | error e =>
    have hvalue : (guideValue guide text : Except _ α) = .error ⟨guide, text, .malformed e.1 e.2⟩ := by
      rw [guideValue, Formula.parse, hread]
      rfl
    rw [hvalue]
    exact .malformed (exists_read_error_iff.mp ⟨e, hread⟩) (Formula.read_error_le hread)
  | ok found =>
    obtain ⟨op, args⟩ := found
    have h := read_eq_ok_iff.mp hread
    by_cases hlength : args.length = op.arity
    · cases hmap : args.mapM Formula.operandValue with
      | error fault =>
        obtain ⟨n, start, stop, hfirst, -⟩ := Formula.mapM_operandValue_eq_error_iff.mp hmap
        rw [guideValue_of_unresolved h hlength hfirst]
        exact .unresolved h hlength hfirst
      | ok values =>
        have hvalues := Formula.mapM_operandValue_eq_ok_iff.mp hmap
        obtain ⟨v, hvalue⟩ := exists_value_of_arity hlength hvalues
        rw [guideValue_of_value h hlength hvalues hvalue]
        split
        · next hfinite => exact .ok h hlength hvalues hvalue hfinite
        · next hfinite => exact .nonFinite h hlength hvalues hvalue (Bool.eq_false_iff.mpr hfinite)
    · rw [guideValue_of_arity h hlength]
      exact .arity h hlength

/-- A name without a value stands in the text where it says. -/
theorem cuts_of_firstUnresolved {text : String} {op : Operator} {args : List (Operand α)}
    (h : Reads text op args) {n : String} {start stop : Nat}
    (hfirst : FirstUnresolved args n start stop) : Cuts text start stop n := by
  obtain ⟨before, behind, rfl, -, -⟩ := hfirst
  exact Formula.read_names_cut (read_eq_ok_iff.mpr h) n start stop
    (List.mem_append_right _ List.mem_cons_self)

namespace Graded

variable {guide text : String} {result : Except GuideError α}

/-- An error is about the text that was given, and its labels lie in it. -/
theorem labels_le (hgraded : Graded guide text result) {e : GuideError} (h : result = .error e) :
    e.guide = guide ∧ e.formula = text ∧ ∀ l ∈ e.labels, l.offset + l.length ≤ text.utf8ByteSize := by
  cases hgraded with
  | malformed _ hoffset =>
    obtain rfl := Except.error.inj h
    refine ⟨rfl, rfl, fun l hl => ?_⟩
    obtain rfl := List.mem_singleton.mp hl
    exact hoffset
  | arity _ _ =>
    obtain rfl := Except.error.inj h
    refine ⟨rfl, rfl, fun l hl => ?_⟩
    obtain rfl := List.mem_singleton.mp hl
    exact (Nat.zero_add _).le
  | unresolved hreads _ hfirst =>
    obtain rfl := Except.error.inj h
    refine ⟨rfl, rfl, fun l hl => ?_⟩
    obtain rfl := List.mem_singleton.mp hl
    have hcuts := cuts_of_firstUnresolved hreads hfirst
    exact (Nat.add_sub_of_le hcuts.start_le_stop).trans_le hcuts.stop_le
  | nonFinite _ _ _ _ _ =>
    obtain rfl := Except.error.inj h
    exact ⟨rfl, rfl, fun l hl => nomatch hl⟩
  | ok _ _ _ _ _ => cases h

/-- The label of a name without a value covers that name. -/
theorem label_cuts (hgraded : Graded guide text result) {n : String} {start stop : Nat}
    (h : result = .error ⟨guide, text, .unresolvedOperand n start stop⟩) :
    ∀ l ∈ (⟨guide, text, .unresolvedOperand n start stop⟩ : GuideError).labels,
      Cuts text l.offset (l.offset + l.length) n := by
  intro l hl
  rw [h] at hgraded
  cases hgraded with
  | unresolved hreads _ hfirst =>
    have hcuts := cuts_of_firstUnresolved hreads hfirst
    obtain rfl := List.mem_singleton.mp hl
    dsimp only
    rwa [Nat.add_sub_of_le hcuts.start_le_stop]

end Graded

section

variable (guide text : String)

theorem guideValue_malformed_iff :
    (∃ expected offset,
      (guideValue guide text : Except _ α) = .error ⟨guide, text, .malformed expected offset⟩) ↔
      ¬ Matches text := by
  refine ⟨?_, guideValue_of_not_matches⟩
  rintro ⟨expected, offset, hvalue⟩
  have hgraded := guideValue_graded (α := α) guide text
  rw [hvalue] at hgraded
  cases hgraded with
  | malformed h _ => exact h

theorem guideValue_arity_iff (op : Operator) (found : Nat) :
    (guideValue guide text : Except _ α) = .error ⟨guide, text, .arity op found⟩ ↔
      ∃ args : List (Operand α), Reads text op args ∧ args.length ≠ op.arity ∧ found = args.length := by
  constructor
  · intro hvalue
    have hgraded := guideValue_graded (α := α) guide text
    rw [hvalue] at hgraded
    cases hgraded with
    | arity h hlength => exact ⟨_, h, hlength, rfl⟩
  · rintro ⟨args, h, hlength, rfl⟩
    exact guideValue_of_arity h hlength

theorem guideValue_unresolved_iff (n : String) (start stop : Nat) :
    (guideValue guide text : Except _ α) = .error ⟨guide, text, .unresolvedOperand n start stop⟩ ↔
      ∃ (op : Operator) (args : List (Operand α)), Reads text op args ∧ args.length = op.arity ∧
        FirstUnresolved args n start stop := by
  constructor
  · intro hvalue
    have hgraded := guideValue_graded (α := α) guide text
    rw [hvalue] at hgraded
    cases hgraded with
    | unresolved h hlength hfirst => exact ⟨_, _, h, hlength, hfirst⟩
  · rintro ⟨op, args, h, hlength, hfirst⟩
    exact guideValue_of_unresolved h hlength hfirst

theorem guideValue_nonFinite_iff :
    (guideValue guide text : Except _ α) = .error ⟨guide, text, .nonFinite⟩ ↔
      ∃ (op : Operator) (args : List (Operand α)) (values : List α) (v : α), Reads text op args ∧
        args.length = op.arity ∧ List.Forall₂ Operand.HasValue args values ∧
        op.value? values = some v ∧ Scalar.isFinite v = false := by
  constructor
  · intro hvalue
    have hgraded := guideValue_graded (α := α) guide text
    rw [hvalue] at hgraded
    cases hgraded with
    | nonFinite h hlength hvalues hvalue hfinite =>
      exact ⟨_, _, _, _, h, hlength, hvalues, hvalue, hfinite⟩
  · rintro ⟨op, args, values, v, h, hlength, hvalues, hvalue, hfinite⟩
    rw [guideValue_of_value h hlength hvalues hvalue, hfinite]
    rfl

theorem guideValue_ok_iff (v : α) :
    guideValue guide text = .ok v ↔
      ∃ (op : Operator) (args : List (Operand α)) (values : List α), Reads text op args ∧
        args.length = op.arity ∧ List.Forall₂ Operand.HasValue args values ∧
        op.value? values = some v ∧ Scalar.isFinite v = true := by
  constructor
  · intro hvalue
    have hgraded := guideValue_graded (α := α) guide text
    rw [hvalue] at hgraded
    cases hgraded with
    | ok h hlength hvalues hvalue hfinite => exact ⟨_, _, _, h, hlength, hvalues, hvalue, hfinite⟩
  · rintro ⟨op, args, values, h, hlength, hvalues, hvalue, hfinite⟩
    rw [guideValue_of_value h hlength hvalues hvalue, hfinite]
    rfl

end

/-- What becomes of a text as the formula of a guide. -/
structure Verdict (guide text : String) (result : Except GuideError α) : Prop where
  /-- it is malformed exactly when the grammar does not match it -/
  malformed_iff : (∃ expected offset, result = .error ⟨guide, text, .malformed expected offset⟩) ↔
    ¬ Matches text
  /-- the number of operands is told exactly when it is not the one that the operator takes -/
  arity_iff (op : Operator) (found : Nat) : result = .error ⟨guide, text, .arity op found⟩ ↔
    ∃ args : List (Operand α), Reads text op args ∧ args.length ≠ op.arity ∧ found = args.length
  /-- otherwise, a name is told exactly when it is the first operand without a value -/
  unresolved_iff (n : String) (start stop : Nat) :
    result = .error ⟨guide, text, .unresolvedOperand n start stop⟩ ↔
      ∃ (op : Operator) (args : List (Operand α)), Reads text op args ∧ args.length = op.arity ∧
        FirstUnresolved args n start stop
  /-- otherwise, the value is not finite exactly when that of the operator on the operands is not -/
  nonFinite_iff : result = .error ⟨guide, text, .nonFinite⟩ ↔
    ∃ (op : Operator) (args : List (Operand α)) (values : List α) (v : α), Reads text op args ∧
      args.length = op.arity ∧ List.Forall₂ Operand.HasValue args values ∧
      op.value? values = some v ∧ Scalar.isFinite v = false
  /-- and otherwise that value is the value of the formula -/
  ok_iff (v : α) : result = .ok v ↔
    ∃ (op : Operator) (args : List (Operand α)) (values : List α), Reads text op args ∧
      args.length = op.arity ∧ List.Forall₂ Operand.HasValue args values ∧
      op.value? values = some v ∧ Scalar.isFinite v = true
  /-- the operator is applied to as many values as it takes -/
  exists_value (op : Operator) (args : List (Operand α)) (values : List α) (hread : Reads text op args)
    (hlength : args.length = op.arity) (hvalues : List.Forall₂ Operand.HasValue args values) :
    ∃ v, op.value? values = some v
  /-- an error is about this guide and this text, and its labels lie within the text -/
  labels_le (e : GuideError) (h : result = .error e) : e.guide = guide ∧ e.formula = text ∧
    ∀ l ∈ e.labels, l.offset + l.length ≤ text.utf8ByteSize
  /-- the label of a name without a value covers exactly that name -/
  label_cuts (n : String) (start stop : Nat)
    (h : result = .error ⟨guide, text, .unresolvedOperand n start stop⟩) :
    ∀ l ∈ (⟨guide, text, .unresolvedOperand n start stop⟩ : GuideError).labels,
      Cuts text l.offset (l.offset + l.length) n

/-- Every text has its verdict: a value, or the one fault that applies to it. -/
theorem guideValue_verdict (guide text : String) :
    Verdict guide text (guideValue guide text : Except GuideError α) where
  malformed_iff := guideValue_malformed_iff guide text
  arity_iff := guideValue_arity_iff guide text
  unresolved_iff := guideValue_unresolved_iff guide text
  nonFinite_iff := guideValue_nonFinite_iff guide text
  ok_iff := guideValue_ok_iff guide text
  exists_value _ _ _ _ hlength hvalues := exists_value_of_arity hlength hvalues
  labels_le _ h := (guideValue_graded guide text).labels_le h
  label_cuts _ _ _ h := (guideValue_graded guide text).label_cuts h

example : guideValue "adj" "pin 0 w 100000"
    = (.error ⟨"adj", "pin 0 w 100000", .unresolvedOperand "w" 6 7⟩ : Except GuideError α) := rfl

end ShapeOutline
