import Mathlib
import ShapeOutline.Path.Text
import ShapeOutline.Proofs.Exact
import ShapeOutline.Proofs.Style.Text

/-!
# What the text of a path says

The text of a path holds the texts of its commands in order, with single blanks between them, and each
of these names its command by a letter. An arc that goes nowhere has no text. A close has one, but it is
as short as the blank that is taken back when nothing was written: in front of all other text a close is
taken back too.

* `Command.isBlank`, `Command.chars_eq_nil_iff`: the commands that have no text;
* `Command.write_of_isBlank`, `Command.write_close_nil`, `Command.write_nil`,
  `Command.write_of_ne_nil`: the text with one more command;
* `Path.chars_eq`: the text of a path, put together from those of its commands;
* `Command.letters`, `Path.filter_chars`: the letters that are read back from a text;
* `Path.text_lists_commands`: all of it, and the paths whose text leaves out no close.
-/

namespace ShapeOutline

open Scalar (tolerance)

variable {α : Type} [Scalar α]

/-! ## Joined texts -/

theorem joinChars_cons (x : List Char) (xs : List (List Char)) :
    joinChars (x :: xs) = x ++ xs.flatMap (' ' :: ·) := by
  induction xs generalizing x with
  | nil => rw [joinChars, List.intercalate_singleton, List.flatMap_nil, List.append_nil]
  | cons y ys ih =>
    have hjoin : joinChars (x :: y :: ys) = x ++ [' '] ++ joinChars (y :: ys) :=
      List.intercalate_cons_cons
    rw [hjoin, ih, List.flatMap_cons, List.append_assoc]
    rfl

/-- What no blank passes is read back from the texts one by one. -/
theorem filter_joinChars {test : Char → Bool} (hblank : test ' ' = false) (xs : List (List Char)) :
    (joinChars xs).filter test = xs.flatMap (List.filter test) := by
  cases xs with
  | nil => rfl
  | cons x xs =>
    have hskip : (fun y : List Char => (' ' :: y).filter test) = List.filter test :=
      funext fun y => List.filter_cons_of_neg (by rw [hblank]; exact Bool.false_ne_true)
    rw [joinChars_cons, List.filter_append, List.filter_flatMap, List.flatMap_cons]
    exact congrArg (fun f => x.filter test ++ xs.flatMap f) hskip

/-! ## The text of one command -/

/-- Whether an arc goes all the way round at least once. Such an arc is written in two pieces. -/
def Arc.isFullTurn (a : Arc α) : Bool := 360 - tolerance ≤ Scalar.abs (a.stop - a.start)

namespace Command

/-- Whether the command is an arc that goes nowhere. Such an arc is not written. -/
def isBlank : Command α → Bool
  | arcTo a => Scalar.abs (a.stop - a.start) < tolerance
  | _ => false

/-- Whether the command closes its subpath. -/
def isClose : Command α → Bool
  | close => true
  | _ => false

/-- The letters that name the command in its text. -/
def letters : Command α → List Char
  | moveTo _ => ['M']
  | lineTo _ => ['L']
  | cubicTo _ _ _ => ['C']
  | arcTo a =>
    if (arcTo a).isBlank then [] else if a.isFullTurn then ['A', 'A'] else ['A']
  | close => ['Z']

omit [Scalar α] in
theorem eq_close_of_isClose {c : Command α} (h : c.isClose = true) : c = close := by
  cases c with
  | close => rfl
  | _ => exact absurd h Bool.false_ne_true

end Command

theorem Arc.pieces_eq_nil_iff (a : Arc α) : a.pieces = [] ↔ (Command.arcTo a).isBlank = true := by
  unfold pieces Command.isBlank
  dsimp only
  rw [decide_eq_true_iff]
  split
  · next hnowhere => exact iff_of_true rfl hnowhere
  · next hnowhere =>
    refine iff_of_false ?_ hnowhere
    split <;> exact List.cons_ne_nil _ _

namespace Command

theorem chars_of_isBlank {c : Command α} (h : c.isBlank = true) : c.chars = [] := by
  cases c with
  | arcTo a =>
    rw [chars, a.pieces_eq_nil_iff.mpr h]
    rfl
  | _ => exact absurd h Bool.false_ne_true

/-- Only a close has so short a text as a single character. -/
theorem one_lt_length_chars {c : Command α} (hblank : c.isBlank = false)
    (hclose : c.isClose = false) : 1 < c.chars.length := by
  have hpoint (p : Point α) : 0 < p.chars.length := by
    rw [Point.chars, List.length_append, List.length_cons]
    exact Nat.add_pos_right _ (Nat.succ_pos _)
  cases c with
  | moveTo p => exact Nat.succ_lt_succ (hpoint p)
  | lineTo p => exact Nat.succ_lt_succ (hpoint p)
  | cubicTo c1 c2 p =>
    rw [chars, joinChars_cons, List.length_cons, List.length_append]
    exact Nat.succ_lt_succ (Nat.add_pos_left (hpoint c1) _)
  | arcTo a =>
    obtain ⟨s, rest, hpieces⟩ := List.exists_cons_of_ne_nil
      (mt a.pieces_eq_nil_iff.mp (Bool.eq_false_iff.mp hblank))
    rw [chars, hpieces, List.map_cons, joinChars_cons, Arc.pieceChars, List.cons_append,
      List.cons_append, List.cons_append, List.length_cons]
    refine Nat.succ_lt_succ ?_
    rw [List.length_append, List.length_append, List.length_append]
    exact Nat.add_pos_left (Nat.add_pos_left (Nat.add_pos_left (hpoint _) _) _) _
  | close => exact absurd hclose Bool.noConfusion

/-- Exactly the arcs that go nowhere have no text. -/
theorem chars_eq_nil_iff (c : Command α) : c.chars = [] ↔ c.isBlank = true := by
  refine ⟨fun hnil => ?_, chars_of_isBlank⟩
  by_contra hblank
  rw [Bool.not_eq_true] at hblank
  cases hclose : c.isClose with
  | true =>
    rw [eq_close_of_isClose hclose] at hnil
    exact absurd hnil (List.cons_ne_nil _ _)
  | false =>
    have hlength := one_lt_length_chars hblank hclose
    rw [hnil] at hlength
    exact absurd hlength (Nat.not_lt_zero 1)

/-! ## The text with one more command -/

/-- A command without a text changes nothing. -/
theorem write_of_isBlank {c : Command α} (h : c.isBlank = true) (out : List Char) :
    write out c = out := by
  unfold write
  rw [chars_of_isBlank h]
  cases out with
  | nil => rfl
  | cons x out =>
    have hlength : (x :: out ++ [' '] ++ []).length = (x :: out).length + 1 := by
      rw [List.append_nil, List.length_append, List.length_singleton]
    exact if_pos hlength

/-- A close in front of all other text is taken back. -/
theorem write_close_nil : write [] (close : Command α) = [] := rfl

/-- Any other command in front is written as it is. -/
theorem write_nil {c : Command α} (hblank : c.isBlank = false) (hclose : c.isClose = false) :
    write [] c = c.chars := by
  have hlength : ¬ c.chars.length = 1 := (one_lt_length_chars hblank hclose).ne'
  exact if_neg hlength

/-- Behind other text a blank comes first. -/
theorem write_of_ne_nil {c : Command α} (hblank : c.isBlank = false) {out : List Char}
    (hout : out ≠ []) : write out c = out ++ ' ' :: c.chars := by
  have hchars : c.chars ≠ [] :=
    mt (chars_eq_nil_iff c).mp (Bool.eq_false_iff.mp hblank)
  have hlength : ¬ (out ++ [' '] ++ c.chars).length = out.length + 1 := by
    rw [List.length_append, List.length_append, List.length_singleton]
    have := List.length_pos_of_ne_nil hchars
    omega
  have hempty : ¬ out.isEmpty = true := mt List.isEmpty_iff.mp hout
  unfold write
  rw [if_neg hempty]
  dsimp only
  rw [if_neg hlength, List.append_assoc]
  rfl

end Command

/-! ## The text of a path -/

/-- The commands of a path that have a text. -/
def Path.written (p : Path α) : List (Command α) := p.commands.filter fun c => !c.isBlank

namespace Command

variable (cs : List (Command α))

/-- Behind other text, every command that has a text comes with a blank in front. -/
theorem foldl_write_of_ne_nil {out : List Char} (hout : out ≠ []) :
    cs.foldl write out = out ++ (cs.filter fun c => !c.isBlank).flatMap fun c => ' ' :: c.chars := by
  induction cs generalizing out with
  | nil => exact (List.append_nil out).symm
  | cons c cs ih =>
    rw [List.foldl_cons]
    cases hblank : c.isBlank with
    | true =>
      rw [write_of_isBlank hblank, ih hout, List.filter_cons_of_neg (by simp [hblank])]
    | false =>
      rw [write_of_ne_nil hblank hout, ih (List.append_ne_nil_of_left_ne_nil hout _),
        List.filter_cons_of_pos (by simp [hblank]), List.flatMap_cons, List.append_assoc]

/-- From scratch, nothing is written until there is a command with a text other than a close. -/
theorem foldl_write_nil :
    cs.foldl write []
      = joinChars (((cs.filter fun c => !c.isBlank).dropWhile isClose).map chars) := by
  induction cs with
  | nil => rfl
  | cons c cs ih =>
    rw [List.foldl_cons]
    cases hblank : c.isBlank with
    | true =>
      rw [write_of_isBlank hblank, ih, List.filter_cons_of_neg (by simp [hblank])]
    | false =>
      rw [List.filter_cons_of_pos (by simp [hblank])]
      cases hclose : c.isClose with
      | true =>
        rw [List.dropWhile_cons_of_pos hclose, eq_close_of_isClose hclose, write_close_nil, ih]
      | false =>
        have hchars : c.chars ≠ [] :=
          mt (chars_eq_nil_iff c).mp (Bool.eq_false_iff.mp hblank)
        rw [List.dropWhile_cons_of_neg (Bool.eq_false_iff.mp hclose), write_nil hblank hclose,
          foldl_write_of_ne_nil cs hchars, List.map_cons, joinChars_cons, List.flatMap_map]

end Command

namespace Path

variable (p : Path α)

/-- The text of a path is that of its commands, less the closes in front. -/
theorem chars_eq : p.chars = joinChars ((p.written.dropWhile Command.isClose).map Command.chars) :=
  Command.foldl_write_nil p.commands

end Path

/-! ## Reading the letters back -/

/-- There is no letter in a number. -/
theorem Scalar.filter_chars (x : α) : (Scalar.chars x).filter Char.isUpper = [] := by
  rw [List.filter_eq_nil_iff]
  intro c hc hupper
  have hnumeral : isNumeral c = true := Decimal.isNumeral_of_mem_chars hc
  simp only [isNumeral, Bool.or_eq_true, beq_iff_eq] at hnumeral
  rcases hnumeral with (hdigit | rfl) | rfl
  · simp only [Char.isDigit, Char.isUpper, Bool.and_eq_true, decide_eq_true_eq, ge_iff_le,
      UInt32.le_iff_toNat_le] at hdigit hupper
    exact absurd (hupper.1.trans hdigit.2) (by decide)
  · exact absurd hupper (by decide)
  · exact absurd hupper (by decide)

theorem Point.filter_chars (p : Point α) : p.chars.filter Char.isUpper = [] := by
  rw [chars, List.filter_append, Scalar.filter_chars, List.filter_cons_of_neg (by decide),
    Scalar.filter_chars, List.append_nil]

namespace Command

/-- An arc has a letter for each of its pieces. -/
theorem letters_arcTo (a : Arc α) : (arcTo a).letters = a.pieces.map fun _ => 'A' := by
  simp only [letters, isBlank, Arc.isFullTurn, Arc.pieces, decide_eq_true_iff]
  split_ifs <;> rfl

theorem filter_pieceChars (a : Arc α) (s : ArcPiece α) :
    (a.pieceChars s).filter Char.isUpper = ['A'] := by
  have hflag (flag : Bool) : (flagChar flag).isUpper = false := by cases flag <;> decide
  have hblank : Char.isUpper ' ' = false := by decide
  have hzero : Char.isUpper '0' = false := by decide
  rw [Arc.pieceChars, List.filter_append, List.filter_append, List.filter_cons_of_pos (by decide),
    Point.filter_chars, Point.filter_chars]
  simp only [List.filter_cons, hblank, hzero, hflag, Bool.false_eq_true, if_false, List.filter_nil,
    List.append_nil]

/-- The letters of a command are read back from its text. -/
theorem filter_chars (c : Command α) : c.chars.filter Char.isUpper = c.letters := by
  have hblank : Char.isUpper ' ' = false := by decide
  cases c with
  | moveTo p => rw [chars, List.filter_cons_of_pos (by decide), p.filter_chars, letters]
  | lineTo p => rw [chars, List.filter_cons_of_pos (by decide), p.filter_chars, letters]
  | cubicTo c1 c2 p =>
    rw [chars, List.filter_cons_of_pos (by decide), filter_joinChars hblank]
    simp only [List.flatMap_cons, List.flatMap_nil, Point.filter_chars, List.append_nil, letters]
  | arcTo a =>
    rw [chars, filter_joinChars hblank, List.flatMap_map, letters_arcTo, List.map_eq_flatMap]
    simp only [filter_pieceChars]
  | close => rfl

/-- The letters of commands are read back from their joined texts. -/
theorem filter_joinChars_chars (cs : List (Command α)) :
    (joinChars (cs.map chars)).filter Char.isUpper = cs.flatMap letters := by
  rw [filter_joinChars (by decide), List.flatMap_map]
  exact congrArg (fun f => cs.flatMap f) (funext filter_chars)

end Command

namespace Path

variable (p : Path α)

/-- The letters of a path are read back from its text. -/
theorem filter_chars :
    p.chars.filter Char.isUpper
      = (p.written.dropWhile Command.isClose).flatMap Command.letters := by
  rw [chars_eq, Command.filter_joinChars_chars]

/-- The text leaves out a close exactly when one stands in front of all else that has a text. -/
theorem chars_eq_iff :
    p.chars = joinChars (p.written.map Command.chars) ↔ ∀ rest, p.written ≠ .close :: rest := by
  constructor
  · intro htext rest hclose
    obtain ⟨front, hfront⟩ := List.dropWhile_suffix (l := rest) Command.isClose
    have hrest : rest.flatMap Command.letters = front.flatMap Command.letters
        ++ (rest.dropWhile Command.isClose).flatMap Command.letters := by
      rw [← List.flatMap_append, hfront]
    have hletters : 'Z' :: rest.flatMap Command.letters
        = (rest.dropWhile Command.isClose).flatMap Command.letters := by
      calc 'Z' :: rest.flatMap Command.letters
          = p.chars.filter Char.isUpper := by
            rw [htext, Command.filter_joinChars_chars, hclose, List.flatMap_cons]
            rfl
        _ = _ := by rw [filter_chars, hclose, List.dropWhile_cons_of_pos rfl]
    -- there is one letter more on the left, that of the close in front
    have hlength := congrArg List.length hletters
    rw [hrest, List.length_cons, List.length_append] at hlength
    omega
  · intro hfirst
    rw [chars_eq]
    cases hwritten : p.written with
    | nil => rfl
    | cons c rest =>
      have hopen : ¬ c.isClose = true := by
        intro hclose
        exact hfirst rest (by rw [hwritten, Command.eq_close_of_isClose hclose])
      rw [List.dropWhile_cons_of_neg hopen]

/-- The text of a path holds the texts of its commands in order, with single blanks between them. Exactly
the arcs that go nowhere have no text, and of the other commands only the closes are left out that stand
in front of all else: the text is that of all commands if and only if there is no such close. The letters
in the text are those of the commands that it holds. -/
theorem text_lists_commands :
    p.text.toList = joinChars ((p.written.dropWhile Command.isClose).map Command.chars) ∧
      (∀ c : Command α, c.chars = [] ↔ c.isBlank = true) ∧
      p.text.toList.filter Char.isUpper
        = (p.written.dropWhile Command.isClose).flatMap Command.letters ∧
      (p.text.toList = joinChars (p.written.map Command.chars) ↔
        ∀ rest, p.written ≠ .close :: rest) := by
  have htext : p.text.toList = p.chars := String.toList_ofList
  rw [htext]
  exact ⟨p.chars_eq, Command.chars_eq_nil_iff, p.filter_chars, p.chars_eq_iff⟩

/-- A close in front of a move has a text, but that of the path does not hold it. -/
theorem close_in_front_unwritten :
    let p : Path ℝ := ⟨[.close, .moveTo Point.origin]⟩
    p.text = "M0,0" ∧ joinChars (p.written.map Command.chars) = "Z M0,0".toList ∧
      p.text.toList ≠ joinChars (p.written.map Command.chars) := by
  have hzero : Scalar.chars (@OfNat.ofNat ℝ 0 (Scalar.literal 0)) = ['0'] := by
    have hsmall : |(0 : ℝ)| < 1e-9 := by norm_num
    have hdecimal : Scalar.decimal (0 : ℝ) = ⟨0, 0⟩ :=
      if_pos (Bool.or_eq_true_iff.mpr (.inl (decide_eq_true hsmall)))
    rw [Exact.literal_zero, Scalar.chars, hdecimal]
    rfl
  have hmove : (Command.moveTo Point.origin : Command ℝ).chars = "M0,0".toList := by
    rw [Command.chars, Point.chars, Point.origin, hzero]
    rfl
  have hwritten : (Path.mk [.close, .moveTo Point.origin] : Path ℝ).written
      = [.close, .moveTo Point.origin] := rfl
  have htext : (Path.mk [.close, .moveTo Point.origin] : Path ℝ).text = "M0,0" := by
    rw [text, chars_eq, hwritten, List.dropWhile_cons_of_pos rfl,
      List.dropWhile_cons_of_neg (by decide), List.map_singleton, hmove]
    rfl
  have hjoined : joinChars ([.close, .moveTo (Point.origin : Point ℝ)].map Command.chars)
      = "Z M0,0".toList := by
    rw [List.map_cons, List.map_singleton, hmove]
    rfl
  dsimp only
  rw [hwritten, htext, hjoined]
  exact ⟨rfl, rfl, by decide⟩

end Path

end ShapeOutline
