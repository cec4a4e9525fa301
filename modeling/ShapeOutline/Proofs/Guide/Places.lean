import Mathlib
import ShapeOutline.Guide.Formula

/-!
# Places in a formula

Reading a formula moves a cursor through its text. The cursor always stands between two characters of the
text and counts the bytes before it, so that what it reports lies in the text: the place where reading
stopped, and the bytes that a name covers.

* `Cuts`: a part of a text, between two places that are given in bytes;
* `Cursor.IsIn`: the cursor stands at a place of the text;
* `Formula.number?_eq_some`, `Formula.operand?_eq_some`: what is taken from the text;
* `Formula.read_names_cut`: the names that are read stand where they say;
* `Formula.read_error_le`: where reading stops is in the text.
-/

namespace ShapeOutline

/-- The text has `part` between two of its places, which are given in bytes. -/
def Cuts (text : String) (start stop : Nat) (part : String) : Prop :=
  ∃ before behind, text = before ++ part ++ behind ∧ start = before.utf8ByteSize ∧
    stop = start + part.utf8ByteSize

theorem Cuts.stop_le {text part : String} {start stop : Nat} (h : Cuts text start stop part) :
    stop ≤ text.utf8ByteSize := by
  obtain ⟨before, behind, rfl, rfl, rfl⟩ := h
  rw [String.utf8ByteSize_append, String.utf8ByteSize_append]
  omega

theorem Cuts.start_le_stop {text part : String} {start stop : Nat} (h : Cuts text start stop part) :
    start ≤ stop := by
  obtain ⟨before, behind, -, -, rfl⟩ := h
  omega

namespace Cursor

theorem bytes_eq (cs : List Char) : bytes cs = (String.ofList cs).utf8ByteSize := by
  induction cs with
  | nil => rfl
  | cons c cs ih =>
    rw [bytes, ih, String.ofList_cons, String.utf8ByteSize_append, String.utf8ByteSize_singleton]

theorem bytes_append (cs ds : List Char) : bytes (cs ++ ds) = bytes cs + bytes ds := by
  rw [bytes_eq, bytes_eq, bytes_eq, String.ofList_append, String.utf8ByteSize_append]

/-- The cursor stands at a place of the text, with what follows there left to read. -/
def IsIn (c : Cursor) (text : String) : Prop :=
  ∃ before, text.toList = before ++ c.rest ∧ c.offset = bytes before

variable {c : Cursor} {text : String} {taken rest : List Char}

theorem isIn_start (text : String) : (Cursor.mk 0 text.toList).IsIn text := ⟨[], rfl, rfl⟩

theorem IsIn.offset_le (h : c.IsIn text) : c.offset ≤ text.utf8ByteSize := by
  obtain ⟨before, htext, hoffset⟩ := h
  have hsize : text.utf8ByteSize = bytes text.toList := by rw [bytes_eq, String.ofList_toList]
  rw [hoffset, hsize, htext, bytes_append]
  omega

/-- A cursor that passes characters of the text stays in it. -/
theorem IsIn.after (h : c.IsIn text) (hrest : c.rest = taken ++ rest) :
    (c.after taken rest).IsIn text := by
  obtain ⟨before, htext, hoffset⟩ := h
  refine ⟨before ++ taken, ?_, ?_⟩
  · rw [htext, hrest, List.append_assoc]
    rfl
  · rw [bytes_append, ← hoffset]
    rfl

/-- The characters that a cursor passes stand between the two places. -/
theorem IsIn.cuts (h : c.IsIn text) (hrest : c.rest = taken ++ rest) :
    Cuts text c.offset (c.after taken rest).offset (String.ofList taken) := by
  obtain ⟨before, htext, hoffset⟩ := h
  refine ⟨String.ofList before, String.ofList rest, ?_, ?_, ?_⟩
  · rw [← String.ofList_append, ← String.ofList_append, List.append_assoc, ← hrest, ← htext,
      String.ofList_toList]
  · rw [hoffset, bytes_eq]
  · rw [Cursor.after, bytes_eq]

theorem IsIn.skipBlanks (h : c.IsIn text) : c.skipBlanks.IsIn text :=
  h.after List.takeWhile_append_dropWhile.symm

/-- Behind the blanks there are no more blanks to skip. -/
theorem skipBlanks_skipBlanks (c : Cursor) : c.skipBlanks.skipBlanks = c.skipBlanks := by
  have htake : (c.rest.dropWhile isBlank).takeWhile isBlank = [] := by
    generalize c.rest = cs
    induction cs with
    | nil => rfl
    | cons x cs ih =>
      cases hx : isBlank x with
      | true => rwa [List.dropWhile_cons_of_pos hx]
      | false =>
        rw [List.dropWhile_cons_of_neg (Bool.eq_false_iff.mp hx),
          List.takeWhile_cons_of_neg (Bool.eq_false_iff.mp hx)]
  have hdrop : (c.rest.dropWhile isBlank).dropWhile isBlank = c.rest.dropWhile isBlank :=
    List.dropWhile_idempotent _ _
  show Cursor.mk (c.offset + bytes (c.rest.takeWhile isBlank)
      + bytes ((c.rest.dropWhile isBlank).takeWhile isBlank))
    ((c.rest.dropWhile isBlank).dropWhile isBlank) = _
  rw [htake, hdrop]
  rfl

theorem length_skipBlanks_le (c : Cursor) : c.skipBlanks.rest.length ≤ c.rest.length :=
  (List.dropWhile_suffix isBlank).length_le

end Cursor

namespace Formula

/-! ## Numbers and operands -/

theorem splitSign_append (cs : List Char) : (splitSign cs).1 ++ (splitSign cs).2 = cs := by
  unfold splitSign
  split <;> rfl

theorem splitFraction_append (cs : List Char) :
    (splitFraction cs).1 ++ (splitFraction cs).2 = cs := by
  unfold splitFraction
  split
  · next rest =>
    split
    · rfl
    · rw [List.cons_append, List.takeWhile_append_dropWhile]
  · rfl

/-- A number is taken from the front, and has digits. -/
theorem number?_eq_some {cs rest : List Char} {n : NumberText} (h : number? cs = some (n, rest)) :
    cs = n.chars ++ rest ∧ n.whole ≠ [] := by
  unfold number? at h
  dsimp only at h
  split at h
  · cases h
  · next hread =>
    obtain ⟨rfl, rfl⟩ := Prod.mk.inj (Option.some.inj h)
    rw [Bool.or_eq_true, not_or, List.isEmpty_iff] at hread
    refine ⟨?_, hread.1⟩
    rw [NumberText.chars, List.append_assoc, List.append_assoc, splitFraction_append,
      List.takeWhile_append_dropWhile, splitSign_append]

variable {α : Type} [Scalar α]

/-- An operand is taken from the front, and is not empty. A name is what was taken, and says where. -/
theorem operand?_eq_some {c d : Cursor} {arg : Operand α} (h : operand? c = some (arg, d)) :
    ∃ taken, taken ≠ [] ∧ c.rest = taken ++ d.rest ∧ d = c.after taken d.rest ∧
      ∀ n start stop, arg = .name n start stop →
        n = String.ofList taken ∧ start = c.offset ∧ stop = d.offset := by
  unfold operand? at h
  split at h
  · next n rest hnumber =>
    obtain ⟨hcs, hwhole⟩ := number?_eq_some hnumber
    obtain ⟨rfl, rfl⟩ := Prod.mk.inj (Option.some.inj h)
    refine ⟨n.chars, ?_, hcs, rfl, nofun⟩
    rw [NumberText.chars]
    exact List.append_ne_nil_of_left_ne_nil (List.append_ne_nil_of_right_ne_nil _ hwhole) _
  · dsimp only at h
    split at h
    · cases h
    · next hname =>
      obtain ⟨rfl, rfl⟩ := Prod.mk.inj (Option.some.inj h)
      refine ⟨_, fun hnil => hname (List.isEmpty_iff.mpr hnil),
        List.takeWhile_append_dropWhile.symm, rfl, fun n start stop harg => ?_⟩
      cases harg
      exact ⟨rfl, rfl, rfl⟩

/-- An operand leaves less to read. -/
theorem length_lt_of_operand? {c d : Cursor} {arg : Operand α} (h : operand? c = some (arg, d)) :
    d.rest.length < c.rest.length := by
  obtain ⟨taken, htaken, hrest, -⟩ := operand?_eq_some h
  rw [hrest, List.length_append]
  have := List.length_pos_of_ne_nil htaken
  omega

/-- The names among some operands stand in a text where they say. -/
def NamesCut (text : String) (args : List (Operand α)) : Prop :=
  ∀ n start stop, .name n start stop ∈ args → Cuts text start stop n

variable {text : String}

theorem isIn_of_operand? {c d : Cursor} {arg : Operand α} (hc : c.IsIn text)
    (h : operand? c = some (arg, d)) : d.IsIn text := by
  obtain ⟨taken, -, hrest, hd, -⟩ := operand?_eq_some h
  rw [hd]
  exact hc.after hrest

theorem namesCut_of_operand? {c d : Cursor} {arg : Operand α} (hc : c.IsIn text)
    (h : operand? c = some (arg, d)) {args : List (Operand α)} (hargs : NamesCut text args) :
    NamesCut text (arg :: args) := by
  intro n start stop hmem
  rcases List.mem_cons.mp hmem with hn | hmem
  · obtain ⟨taken, -, hrest, hd, hname⟩ := operand?_eq_some h
    obtain ⟨rfl, rfl, rfl⟩ := hname n start stop hn.symm
    have hcuts := hc.cuts hrest
    rwa [← hd] at hcuts
  · exact hargs n start stop hmem

/-- Operands that are read one after the other stay in the text. -/
theorem operands_isIn (fuel : Nat) {c : Cursor} (hc : c.IsIn text) :
    NamesCut text (operands (α := α) fuel c).1 ∧ (operands (α := α) fuel c).2.IsIn text := by
  induction fuel generalizing c with
  | zero => exact ⟨fun _ _ _ hmem => absurd hmem List.not_mem_nil, hc.skipBlanks⟩
  | succ fuel ih =>
    rw [operands]
    split
    · exact ⟨fun _ _ _ hmem => absurd hmem List.not_mem_nil, hc.skipBlanks⟩
    · next arg behind hoperand =>
      obtain ⟨hargs, hstop⟩ := ih (isIn_of_operand? hc.skipBlanks hoperand)
      exact ⟨namesCut_of_operand? hc.skipBlanks hoperand hargs, hstop⟩

/-! ## Whole formulas -/

theorem behindToken?_eq_some {token cs rest : List Char} (h : behindToken? token cs = some rest) :
    cs = token ++ rest := by
  unfold behindToken? at h
  split at h
  · next hfront =>
    obtain ⟨rest', rfl⟩ := List.isPrefixOf_iff_prefix.mp hfront
    rw [← Option.some.inj h, List.drop_left]
  · cases h

theorem operator?_eq_some {c d : Cursor} {op : Operator} (h : operator? c = some (op, d)) :
    c.rest = op.token.toList ++ d.rest ∧ d = c.after op.token.toList d.rest := by
  obtain ⟨op', -, h⟩ := List.exists_of_findSome?_eq_some h
  obtain ⟨rest, hrest, h⟩ := Option.map_eq_some_iff.mp h
  obtain ⟨rfl, rfl⟩ := Prod.mk.inj h
  exact ⟨behindToken?_eq_some hrest, rfl⟩

theorem isIn_of_operator? {c d : Cursor} {op : Operator} (hc : c.IsIn text)
    (h : operator? c = some (op, d)) : d.IsIn text := by
  obtain ⟨hrest, hd⟩ := operator?_eq_some h
  rw [hd]
  exact hc.after hrest

/-- The place behind the token of a value. -/
def behindVal (start : Cursor) (rest : List Char) : Cursor :=
  (start.after Operator.val.token.toList rest).skipBlanks

/-- How a formula is read from the place behind the blanks in front: each way with what was found on it
and what it leads to. -/
inductive Outcome (start : Cursor) : Except (Expected × Nat) (Operator × List (Operand α)) → Prop
  | noValue {rest : List Char} (hval : start.rest = Operator.val.token.toList ++ rest)
      (hnone : operand? (α := α) (behindVal start rest) = none) :
      Outcome start (.error (.operand, (behindVal start rest).offset))
  | valueAndMore {rest : List Char} {stop : Cursor} {arg : Operand α}
      (hval : start.rest = Operator.val.token.toList ++ rest)
      (hsome : operand? (behindVal start rest) = some (arg, stop))
      (hmore : stop.skipBlanks.rest ≠ []) :
      Outcome start (.error (.endOfText, stop.skipBlanks.offset))
  | value {rest : List Char} {stop : Cursor} {arg : Operand α}
      (hval : start.rest = Operator.val.token.toList ++ rest)
      (hsome : operand? (behindVal start rest) = some (arg, stop))
      (hend : stop.skipBlanks.rest = []) : Outcome start (.ok (.val, [arg]))
  | noOperator {expected : Expected} (hval : behindToken? Operator.val.token.toList start.rest = none)
      (hnone : operator? start = none) : Outcome start (.error (expected, start.offset))
  | operatorAndMore {op : Operator} {behind stop : Cursor} {args : List (Operand α)}
      (hval : behindToken? Operator.val.token.toList start.rest = none)
      (hsome : operator? start = some (op, behind))
      (hargs : operands behind.rest.length behind = (args, stop)) (hmore : stop.rest ≠ []) :
      Outcome start (.error (.endOfTextOrOperand, stop.offset))
  | operator {op : Operator} {behind stop : Cursor} {args : List (Operand α)}
      (hval : behindToken? Operator.val.token.toList start.rest = none)
      (hsome : operator? start = some (op, behind))
      (hargs : operands behind.rest.length behind = (args, stop)) (hend : stop.rest = []) :
      Outcome start (.ok (op, args))

theorem read_outcome (text : String) :
    Outcome (α := α) (Cursor.mk 0 text.toList).skipBlanks (read text) := by
  unfold read
  generalize (Cursor.mk 0 text.toList).skipBlanks = start
  dsimp only
  cases hval : behindToken? Operator.val.token.toList start.rest with
  | some rest =>
    have hrest := behindToken?_eq_some hval
    dsimp only
    cases hoperand : operand? (α := α) (start.after Operator.val.token.toList rest).skipBlanks with
    | none => exact .noValue hrest hoperand
    | some found =>
      obtain ⟨arg, stop⟩ := found
      dsimp only
      split
      · next hend => exact .value hrest hoperand (List.isEmpty_iff.mp hend)
      · next hmore => exact .valueAndMore hrest hoperand (mt List.isEmpty_iff.mpr hmore)
  | none =>
    dsimp only
    cases hoperator : operator? start with
    | none => exact .noOperator hval hoperator
    | some found =>
      obtain ⟨op, behind⟩ := found
      dsimp only
      split
      · next hend => exact .operator hval hoperator rfl (List.isEmpty_iff.mp hend)
      · next hmore => exact .operatorAndMore hval hoperator rfl (mt List.isEmpty_iff.mpr hmore)

/-- The names that are read stand where they say, and where reading stops is in the text. -/
theorem Outcome.isIn {start : Cursor} (hstart : start.IsIn text)
    {result : Except (Expected × Nat) (Operator × List (Operand α))} (h : Outcome start result) :
    (∀ op args, result = .ok (op, args) → NamesCut text args) ∧
      ∀ expected offset, result = .error (expected, offset) → offset ≤ text.utf8ByteSize := by
  have herror {e : Expected} {place : Nat} (hplace : place ≤ text.utf8ByteSize)
      (expected : Expected) (offset : Nat)
      (heq : (.error (e, place) : Except _ (Operator × List (Operand α))) = .error (expected, offset)) :
      offset ≤ text.utf8ByteSize := by
    cases heq
    exact hplace
  cases h with
  | noValue hval _ => exact ⟨nofun, herror (hstart.after hval).skipBlanks.offset_le⟩
  | valueAndMore hval hsome _ =>
    have hstop := isIn_of_operand? (hstart.after hval).skipBlanks hsome
    exact ⟨nofun, herror hstop.skipBlanks.offset_le⟩
  | value hval hsome _ =>
    refine ⟨fun _ _ heq => ?_, nofun⟩
    cases heq
    exact namesCut_of_operand? (hstart.after hval).skipBlanks hsome fun _ _ _ hmem => nomatch hmem
  | noOperator _ _ => exact ⟨nofun, herror hstart.offset_le⟩
  | @operatorAndMore op behind stop args _ hsome hargs _ =>
    have hstop := (operands_isIn (α := α) behind.rest.length (isIn_of_operator? hstart hsome)).2
    rw [hargs] at hstop
    exact ⟨nofun, herror hstop.offset_le⟩
  | @operator op behind stop args _ hsome hargs _ =>
    have hnames := (operands_isIn (α := α) behind.rest.length (isIn_of_operator? hstart hsome)).1
    rw [hargs] at hnames
    refine ⟨fun _ _ heq => ?_, nofun⟩
    cases heq
    exact hnames

/-- The names that are read stand in the text where they say. -/
theorem read_names_cut {op : Operator} {args : List (Operand α)} (h : read text = .ok (op, args)) :
    NamesCut text args :=
  ((read_outcome text).isIn (Cursor.isIn_start text).skipBlanks).1 op args h

/-- Where reading stops is in the text. -/
theorem read_error_le {expected : Expected} {offset : Nat}
    (h : (read text : Except _ (Operator × List (Operand α))) = .error (expected, offset)) :
    offset ≤ text.utf8ByteSize :=
  ((read_outcome (α := α) text).isIn (Cursor.isIn_start text).skipBlanks).2 expected offset h

end Formula

end ShapeOutline
