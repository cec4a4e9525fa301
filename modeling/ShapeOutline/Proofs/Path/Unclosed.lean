import Mathlib
import ShapeOutline.Proofs.Path.OpenEnds

/-!
# Where drawing stops

A subpath is left open where drawing stops without a close: the command behind a drawing command is a
move, or there is none. What is behind a close and is not drawing again leaves nothing open, whether or not
a move came before.

* `Command.StartsAnew`: nothing is drawn on from what stands before;
* `Command.StopsDrawing`: somewhere drawing stops without a close;
* `Path.leavesOpen_iff`, `Path.leavesOpen_append`: the two in terms of each other, command by command;
* `Path.hasOpenSubpath_iff_stops`: a path has an open subpath where drawing stops, and one path behind
  another has one when either has.
-/

namespace ShapeOutline

variable {α : Type}

namespace Command

/-- There is no command, or the first is a move. -/
def StartsAnew (cs : List (Command α)) : Prop := cs = [] ∨ ∃ p rest, cs = .moveTo p :: rest

/-- Some drawing command is the last one or stands directly before a move. -/
def StopsDrawing (cs : List (Command α)) : Prop :=
  ∃ before c behind, cs = before ++ c :: behind ∧ c.draws = true ∧ StartsAnew behind

variable (p : Point α) (c : Command α) (cs : List (Command α))

theorem startsAnew_nil : StartsAnew ([] : List (Command α)) := .inl rfl

theorem startsAnew_moveTo : StartsAnew (.moveTo p :: cs) := .inr ⟨p, cs, rfl⟩

theorem not_startsAnew {c : Command α} (hc : c.isMove = false) : ¬StartsAnew (c :: cs) := by
  rintro (hnil | ⟨p, rest, hmove⟩)
  · cases hnil
  · obtain ⟨rfl, -⟩ := List.cons.inj hmove
    cases hc

theorem isMove_of_draws {c : Command α} (hc : c.draws = true) : c.isMove = false := by
  cases c with
  | moveTo p => cases hc
  | _ => rfl

theorem not_stopsDrawing_nil : ¬StopsDrawing ([] : List (Command α)) := by
  rintro ⟨before, c, behind, hsplit, -⟩
  exact List.append_ne_nil_of_right_ne_nil before (List.cons_ne_nil c behind) hsplit.symm

/-- Drawing stops at the first command or behind it. -/
theorem stopsDrawing_cons :
    StopsDrawing (c :: cs) ↔ c.draws = true ∧ StartsAnew cs ∨ StopsDrawing cs := by
  constructor
  · rintro ⟨_ | ⟨d, before⟩, e, behind, hsplit, he, hbehind⟩
    · obtain ⟨rfl, rfl⟩ := List.cons.inj hsplit
      exact .inl ⟨he, hbehind⟩
    · obtain ⟨-, rfl⟩ := List.cons.inj hsplit
      exact .inr ⟨before, e, behind, rfl, he, hbehind⟩
  · rintro (⟨hc, hcs⟩ | ⟨before, e, behind, rfl, he, hbehind⟩)
    · exact ⟨[], c, cs, rfl, hc, hcs⟩
    · exact ⟨c :: before, e, behind, rfl, he, hbehind⟩

end Command

open Command

namespace Path

theorem leavesOpen_of_draws (opened : Bool) {c : Command α} (hc : c.draws = true)
    (cs : List (Command α)) : leavesOpen opened (c :: cs) = leavesOpen true cs := by
  cases c with
  | moveTo p => cases hc
  | close => cases hc
  | _ => rfl

/-- Commands leave a subpath open when drawing stops among them, or when one was open before them and they
start anew. -/
theorem leavesOpen_iff (opened : Bool) (cs : List (Command α)) :
    leavesOpen opened cs = true ↔ opened = true ∧ StartsAnew cs ∨ StopsDrawing cs := by
  -- the flag tells whether the command before draws
  induction cs generalizing opened with
  | nil =>
    have hstops := not_stopsDrawing_nil (α := α)
    simp only [leavesOpen, startsAnew_nil, hstops, and_true, or_false]
  | cons c cs ih =>
    rw [stopsDrawing_cons]
    cases hc : c.draws with
    | true =>
      have hanew := not_startsAnew cs (isMove_of_draws hc)
      simp only [leavesOpen_of_draws opened hc, ih, hanew, true_and, and_false, false_or]
    | false =>
      cases c with
      | moveTo p =>
        have hanew := startsAnew_moveTo p cs
        simp only [leavesOpen, Bool.or_eq_true, ih, hanew, Bool.false_eq_true, false_and, and_true,
          false_or]
      | close =>
        have hanew := not_startsAnew cs (c := .close) rfl
        simp only [leavesOpen, ih, hanew, Bool.false_eq_true, false_and, and_false, false_or]
      | _ => cases hc

/-- Commands that start anew leave open what they leave open on their own. -/
theorem leavesOpen_append (opened : Bool) (cs : List (Command α)) {ds : List (Command α)}
    (hds : StartsAnew ds) :
    leavesOpen opened (cs ++ ds) = (leavesOpen opened cs || leavesOpen false ds) := by
  induction cs generalizing opened with
  | nil =>
    rcases hds with rfl | ⟨p, rest, rfl⟩
    · exact (Bool.or_false opened).symm
    · rfl
  | cons c cs ih =>
    cases c with
    | moveTo p =>
      show (opened || leavesOpen false (cs ++ ds)) = (opened || leavesOpen false cs || _)
      rw [ih, Bool.or_assoc]
    | _ => exact ih _

/-- A path has an open subpath exactly when some drawing command is directly followed by a move or is the
last one. A path that is empty or begins with a move does not change this for what it is put behind: the
two together have an open subpath exactly when one of them has. -/
theorem hasOpenSubpath_iff_stops (p q : Path α) :
    (p.hasOpenSubpath = true ↔
      ∃ before c behind, p.commands = before ++ c :: behind ∧ c.draws = true ∧
        (behind = [] ∨ ∃ r rest, behind = .moveTo r :: rest)) ∧
      ((q.commands = [] ∨ ∃ r rest, q.commands = .moveTo r :: rest) →
        ((p ++ q).hasOpenSubpath = true ↔ p.hasOpenSubpath = true ∨ q.hasOpenSubpath = true)) := by
  constructor
  · have hstops := leavesOpen_iff false p.commands
    simp only [Bool.false_eq_true, false_and, false_or] at hstops
    exact hstops
  · intro hq
    show leavesOpen false (p.commands ++ q.commands) = true ↔ _
    rw [leavesOpen_append false p.commands hq, Bool.or_eq_true]
    rfl

/-- Drawing goes on behind a close and stops at the end, and a closed triangle is put behind it. -/
theorem hasOpenSubpath_iff_stops_behind_close :
    let p : Path ℕ := ⟨[.moveTo ⟨0, 0⟩, .lineTo ⟨1, 0⟩, .close, .lineTo ⟨2, 2⟩]⟩
    let q : Path ℕ := ⟨[.moveTo ⟨0, 0⟩, .lineTo ⟨1, 0⟩, .lineTo ⟨1, 1⟩, .close]⟩
    (q.commands = [] ∨ ∃ r rest, q.commands = .moveTo r :: rest) ∧
      p.hasOpenSubpath = true ∧ q.hasOpenSubpath = false ∧
      ((p ++ q).hasOpenSubpath = true ↔ p.hasOpenSubpath = true ∨ q.hasOpenSubpath = true) := by
  intro p q
  have hq : q.commands = [] ∨ ∃ r rest, q.commands = .moveTo r :: rest := .inr ⟨_, _, rfl⟩
  exact ⟨hq, rfl, rfl, (hasOpenSubpath_iff_stops p q).2 hq⟩

end Path

end ShapeOutline
