import Mathlib
import ShapeOutline.Proofs.Pen.Agreement

/-!
# Welded fragments

A fragment is welded to what is being drawn: the move at its beginning becomes a line to the same point.
The pen follows all commands of the fragment but this line. As long as another command comes behind the
line, the pen is where the path ends. A fragment that is a move and nothing else leaves the pen where it
was.

* `Path.welded`: the commands of a fragment with its first move as a line;
* `Pen.IsAtEnd`: the pen is where the path ends;
* `Pen.ContinuesFrom`: what is drawn from the pen starts at a point of the box;
* `Pen.continuesFrom_iff`: it starts where the pen is;
* `Pen.run_tracks_of_not_lone`, `Pen.isAtEnd_append_iff`: when the pen is where the path ends;
* `Pen.append_welds`: what a fragment adds to a path, and where it leaves the pen;
* `Pen.lone_move_leaves_pen`: the pen that stays behind.
-/

namespace ShapeOutline

/-- The commands of a path, with a line in the place of a move at the beginning. -/
def Path.welded {α : Type} (p : Path α) : List (Command α) :=
  match p.commands with
  | .moveTo q :: rest => .lineTo q :: rest
  | cs => cs

/-- Whether an instruction appends a fragment that is a move and nothing else. -/
def Instruction.isLoneMove {α : Type} : Instruction α → Bool
  | .append ⟨[.moveTo _]⟩ => true
  | _ => false

namespace Pen

/-! ## What a fragment adds -/

section

variable {α : Type} [Scalar α] {pen : Pen α}

theorem append_of_drawing (h : pen.drawing = true) (fragment : Path α) :
    (pen.append fragment).2 = fragment.welded := by
  unfold append Path.welded
  rw [h]
  split
  · next p rest _ hcommands => rw [hcommands]
  · next hother =>
    split
    · next p rest hcommands => exact absurd hcommands (hother p rest rfl)
    · rfl

theorem append_of_not_drawing (h : pen.drawing = false) (fragment : Path α) :
    (pen.append fragment).2 = fragment.commands := by
  unfold append
  rw [h]

theorem append_of_nil {fragment : Path α} (hnil : fragment.commands = []) :
    pen.append fragment = (pen, []) := by
  unfold append
  rw [hnil]
  split
  · next hcommands => cases hcommands
  · rfl

/-- A lone move that becomes a line is the only command that the pen does not follow. -/
theorem append_lone_of_drawing (h : pen.drawing = true) {fragment : Path α} {p : Point α}
    (hcommands : fragment.commands = [.moveTo p]) : pen.append fragment = (pen, [.lineTo p]) := by
  unfold append
  rw [h, hcommands]
  rfl

theorem append_lone_of_not_drawing (h : pen.drawing = false) {fragment : Path α} {p : Point α}
    (hcommands : fragment.commands = [.moveTo p]) :
    pen.append fragment = (pen.follow (.moveTo p), [.moveTo p]) := by
  unfold append
  rw [h, hcommands]
  rfl

/-- A run of the pen, with one more fragment appended. -/
theorem run_append (pen : Pen α) (is : List (Instruction α)) (fragment : Path α) :
    pen.run (is ++ [.append fragment])
      = (((pen.run is).1.append fragment).1, (pen.run is).2 ++ ((pen.run is).1.append fragment).2) := by
  have hlast (q : Pen α) : q.run [.append fragment] = q.append fragment := by
    show ((q.append fragment).1, (q.append fragment).2 ++ []) = q.append fragment
    rw [List.append_nil]
  rw [run_concat, hlast]

end

/-! ## Where the pen is -/

/-- The pen is where a path with these commands ends. -/
def IsAtEnd (pen : Pen ℝ) (cs : List (Command ℝ)) : Prop :=
  pen.position.map pen.toBox = (Path.mk cs).endPoint

/-- What is drawn from where the pen is starts at a point of the box: an elliptical arc, or the line that
stands for one without an ellipse, and a quadratic curve. -/
structure ContinuesFrom (pen : Pen ℝ) (e : Point ℝ) : Prop where
  arc {wr hr : ℝ} (start sweep : ℝ) : 0 < wr → 0 < hr →
    ∃ a, (pen.step (.arcTo wr hr start sweep)).2 = [.arcTo a] ∧ a.startPoint = e
  noArc {wr hr : ℝ} (start sweep : ℝ) : ¬(0 < wr ∧ 0 < hr) →
    (pen.step (.arcTo wr hr start sweep)).2 = [.lineTo e]
  quadratic (qx qy x y : ℝ) :
    (pen.step (.quadTo qx qy x y)).2
      = [.cubicTo (elevate e (pen.toBox ⟨qx, qy⟩)) (elevate (pen.toBox ⟨x, y⟩) (pen.toBox ⟨qx, qy⟩))
          (pen.toBox ⟨x, y⟩)]

variable {pen : Pen ℝ} {t : Trail ℝ} {cs : List (Command ℝ)}

/-- Control points are elevated in local space as in the box. -/
theorem toBox_elevate (pen : Pen ℝ) (p q : Point ℝ) :
    pen.toBox (elevate p q) = elevate (pen.toBox p) (pen.toBox q) := by
  unfold elevate
  ext
  · show (p.x + (q.x - p.x) * _) * pen.scale.x
      = p.x * pen.scale.x + (q.x * pen.scale.x - p.x * pen.scale.x) * _
    ring
  · show (p.y + (q.y - p.y) * _) * pen.scale.y
      = p.y * pen.scale.y + (q.y * pen.scale.y - p.y * pen.scale.y) * _
    ring

/-- A pen that is up is put down before it draws an arc. -/
theorem ellipticalArc_of_up (hpos : pen.position = none) (wr hr start sweep : ℝ) :
    ∃ rest, (pen.ellipticalArc wr hr start sweep).2 = .moveTo (pen.toBox Point.origin) :: rest := by
  unfold ellipticalArc
  rw [ready, hpos]
  dsimp only
  split <;> exact ⟨_, rfl⟩

/-- What is drawn by a pen that is down starts where the pen is. -/
theorem continuesFrom_of_position (h : pen.Anchored t) {p : Point ℝ} (hpos : pen.position = some p) :
    pen.ContinuesFrom (pen.toBox p) where
  arc start sweep hwr hhr := by
    have harc :=
      ellipticalArc_of_position hpos h.width_pos h.height_pos hwr hhr start sweep
    refine ⟨_, congrArg Prod.snd harc, ?_⟩
    rw [Arc.startPoint, pointAt_toBox, ellipsePoint_sub]
  noArc start sweep hradii :=
    congrArg Prod.snd (ellipticalArc_of_position_of_not_pos hpos hradii start sweep)
  quadratic qx qy x y := by
    show (pen.quadratic ⟨qx, qy⟩ ⟨x, y⟩).2 = _
    unfold quadratic cubic
    rw [ready_of_position hpos]
    dsimp only
    rw [ready_of_position hpos, toBox_elevate, toBox_elevate]
    rfl

/-- What is drawn next starts at a point exactly when the pen is there. -/
theorem continuesFrom_iff (h : pen.Anchored t) (e : Point ℝ) :
    pen.ContinuesFrom e ↔ pen.position.map pen.toBox = some e := by
  constructor
  · intro hcontinues
    -- the line that stands for an ellipse without radii goes nowhere
    have hradii : ¬((0 : ℝ) < 0 ∧ (0 : ℝ) < 0) := fun hradii => lt_irrefl _ hradii.1
    have hline := hcontinues.noArc 0 0 hradii
    cases hpos : pen.position with
    | none =>
      rw [← Exact.literal_zero] at hline
      obtain ⟨rest, hmoves⟩ := ellipticalArc_of_up hpos _ _ _ _
      cases hmoves.symm.trans hline
    | some p =>
      obtain ⟨⟩ := ((continuesFrom_of_position h hpos).noArc 0 0 hradii).symm.trans hline
      rfl
  · intro hat
    obtain ⟨p, hpos, rfl⟩ := Option.map_eq_some_iff.mp hat
    exact continuesFrom_of_position h hpos

theorem trail_append (cs ds : List (Command ℝ)) :
    (Path.mk (cs ++ ds)).trail = ds.foldl Trail.step (Path.mk cs).trail :=
  List.foldl_append

theorem Tracks.isAtEnd (h : pen.Tracks (Path.mk cs).trail) : pen.IsAtEnd cs := h.position.symm

/-- Any fragment but a lone move leaves the pen where the path ends. -/
theorem append_tracks_of_not_lone (h : pen.Tracks t) {fragment : Path ℝ}
    (hlone : (Instruction.append fragment).isLoneMove = false) :
    (pen.append fragment).1.Tracks ((pen.append fragment).2.foldl Trail.step t) := by
  by_cases hmove : ∃ p rest, fragment.commands = .moveTo p :: rest
  · obtain ⟨p, rest, hcommands⟩ := hmove
    cases rest with
    | nil =>
      obtain rfl : fragment = ⟨[.moveTo p]⟩ := congrArg Path.mk hcommands
      cases hlone
    | cons c rest => exact append_tracks h.anchored hcommands
  · -- the pen follows every command
    have happend : pen.append fragment = (fragment.commands.foldl follow pen, fragment.commands) := by
      unfold append
      split
      · next p rest _ hcommands => exact absurd ⟨p, rest, hcommands⟩ hmove
      · rfl
    rw [happend]
    cases hcommands : fragment.commands with
    | nil => exact h
    | cons c cs => exact foldl_follow_tracks h.anchored c cs

/-- Instructions that append no lone move leave the pen where the path ends. -/
theorem run_tracks_of_not_lone (h : pen.Tracks t) {is : List (Instruction ℝ)}
    (his : ∀ i ∈ is, i.isLoneMove = false) :
    (pen.run is).1.Tracks ((pen.run is).2.foldl Trail.step t) := by
  induction is generalizing pen t with
  | nil => exact h
  | cons i is ih =>
    obtain ⟨hi, his⟩ := List.forall_mem_cons.mp his
    show ((pen.step i).1.run is).1.Tracks
      (((pen.step i).2 ++ ((pen.step i).1.run is).2).foldl Trail.step t)
    rw [List.foldl_append]
    refine ih ?_ his
    cases i with
    | append fragment => exact append_tracks_of_not_lone h hi
    | _ => exact step_tracks h rfl

/-- A pen that leaves a line without following it is at the end of the path only if it was there. -/
theorem isAtEnd_lineTo_iff (pen : Pen ℝ) (cs : List (Command ℝ)) (p : Point ℝ) :
    pen.IsAtEnd (cs ++ [.lineTo p]) ↔ pen.position.map pen.toBox = some p := by
  have hend : (Path.mk (cs ++ [.lineTo p])).endPoint = some p := by
    rw [Path.endPoint, trail_append]
    rfl
  rw [IsAtEnd, hend]

/-- Where a fragment that is empty or begins with a move leaves the pen. Only an empty one keeps what the
pen took itself to be, and only a lone move that becomes a line is forgotten. -/
theorem isAtEnd_append_iff (h : pen.Anchored (Path.mk cs).trail) {fragment : Path ℝ}
    (hfragment : fragment.commands = [] ∨ ∃ p rest, fragment.commands = .moveTo p :: rest) :
    (pen.append fragment).1.IsAtEnd (cs ++ (pen.append fragment).2) ↔
      (fragment.commands = [] → pen.IsAtEnd cs) ∧
      ∀ p, fragment.commands = [.moveTo p] → pen.drawing = true →
        pen.position.map pen.toBox = some p := by
  rcases hfragment with hnil | ⟨p, rest, hcommands⟩
  · rw [append_of_nil hnil, List.append_nil, hnil]
    constructor
    · intro hat
      exact ⟨fun _ => hat, fun _ hmove => absurd hmove (List.cons_ne_nil _ _).symm⟩
    · intro hat
      exact hat.1 rfl
  · rw [hcommands]
    have hnonempty : Command.moveTo p :: rest = [] → pen.IsAtEnd cs := fun hnil =>
      absurd hnil (List.cons_ne_nil _ _)
    cases rest with
    | nil =>
      by_cases hdrawing : pen.drawing = true
      · -- the path goes on to `p`, and the pen does not
        rw [append_lone_of_drawing hdrawing hcommands, isAtEnd_lineTo_iff]
        constructor
        · intro hat
          refine ⟨hnonempty, ?_⟩
          rintro q ⟨⟩ -
          exact hat
        · intro hat
          exact hat.2 p rfl hdrawing
      · have htracks := follow_tracks h (.moveTo p)
        rw [append_lone_of_not_drawing (eq_false_of_ne_true hdrawing) hcommands]
        refine iff_of_true (Tracks.isAtEnd ?_) ⟨hnonempty, fun _ _ hdraws => absurd hdraws hdrawing⟩
        rw [trail_append]
        exact htracks
    | cons c rest =>
      have htracks := append_tracks h hcommands
      rw [← trail_append] at htracks
      have hnotLone (q : Point ℝ) : Command.moveTo p :: c :: rest ≠ [.moveTo q] := fun hmove =>
        List.cons_ne_nil _ _ (List.tail_eq_of_cons_eq hmove)
      exact iff_of_true htracks.isAtEnd ⟨hnonempty, fun q hmove => absurd hmove (hnotLone q)⟩

/-- What a fragment that is empty or begins with a move adds to the path, and where it leaves the pen.
The move becomes a line exactly when something was drawn since the last move or close. The pen is where the
path ends, unless it stayed behind: an empty fragment leaves it where it was, and so does a lone move that
became a line. -/
theorem append_welds {start : Pen ℝ} (hstart : start.IsNew) (is : List (Instruction ℝ))
    {fragment : Path ℝ}
    (hfragment : fragment.commands = [] ∨ ∃ p rest, fragment.commands = .moveTo p :: rest) :
    ∃ pen cs pen' ds, start.run is = (pen, cs) ∧
      start.run (is ++ [.append fragment]) = (pen', cs ++ ds) ∧
      (pen.drawing = true ↔ Command.StillDrawing cs) ∧
      (Command.StillDrawing cs → ds = fragment.welded) ∧
      (¬Command.StillDrawing cs → ds = fragment.commands) ∧
      ((∀ i ∈ is, i.isLoneMove = false) → pen.IsAtEnd cs) ∧
      (pen'.IsAtEnd (cs ++ ds) ↔
        (fragment.commands = [] → pen.IsAtEnd cs) ∧
        ∀ p, fragment.commands = [.moveTo p] → Command.StillDrawing cs →
          pen.position.map pen.toBox = some p) ∧
      ∀ e, (Path.mk (cs ++ ds)).endPoint = some e →
        (pen'.ContinuesFrom e ↔ pen'.IsAtEnd (cs ++ ds)) := by
  have hmirrors := hstart.mirrors
  have hanchored := run_anchored hmirrors.tracks.anchored is
  have hdrawing : (start.run is).1.drawing = true ↔ Command.StillDrawing (start.run is).2 := by
    rw [Command.stillDrawing_iff, run_drawing, hmirrors.drawing]
    rfl
  refine ⟨_, _, _, _, rfl, start.run_append is fragment, hdrawing, ?_, ?_, ?_, ?_, ?_⟩
  · intro hstill
    exact append_of_drawing (hdrawing.mpr hstill) fragment
  · intro hstill
    rw [← hdrawing, Bool.not_eq_true] at hstill
    exact append_of_not_drawing hstill fragment
  · intro his
    exact (run_tracks_of_not_lone hmirrors.tracks his).isAtEnd
  · rw [← hdrawing]
    exact isAtEnd_append_iff hanchored hfragment
  · intro e hend
    have hanchored' := append_anchored hanchored fragment
    rw [continuesFrom_iff hanchored', IsAtEnd, hend]

/-- A closed triangle with one more move behind it, welded to a line in a space of 2 by 4 on a box of 200 by
100. -/
theorem append_welds_triangle :
    let start : Pen ℝ := .inSpace 200 100 2 4
    let is : List (Instruction ℝ) := [.moveTo 0 0, .lineTo 1 0]
    let fragment : Path ℝ := ⟨[.moveTo ⟨100, 50⟩, .lineTo ⟨200, 0⟩, .close, .moveTo ⟨0, 50⟩]⟩
    start.IsNew ∧ (fragment.commands = [] ∨ ∃ p rest, fragment.commands = .moveTo p :: rest) ∧
      ∃ pen cs pen' ds, start.run is = (pen, cs) ∧
        start.run (is ++ [.append fragment]) = (pen', cs ++ ds) ∧
        (pen.drawing = true ↔ Command.StillDrawing cs) ∧
        (Command.StillDrawing cs → ds = fragment.welded) ∧
        (¬Command.StillDrawing cs → ds = fragment.commands) ∧
        ((∀ i ∈ is, i.isLoneMove = false) → pen.IsAtEnd cs) ∧
        (pen'.IsAtEnd (cs ++ ds) ↔
          (fragment.commands = [] → pen.IsAtEnd cs) ∧
          ∀ p, fragment.commands = [.moveTo p] → Command.StillDrawing cs →
            pen.position.map pen.toBox = some p) ∧
        ∀ e, (Path.mk (cs ++ ds)).endPoint = some e →
          (pen'.ContinuesFrom e ↔ pen'.IsAtEnd (cs ++ ds)) := by
  intro start is fragment
  have hstart : start.IsNew := .inSpace (factor_pos (by norm_num) 2) (factor_pos (by norm_num) 4)
  have hfragment : fragment.commands = [] ∨ ∃ p rest, fragment.commands = .moveTo p :: rest :=
    .inr ⟨_, _, rfl⟩
  exact ⟨hstart, hfragment, append_welds hstart is hfragment⟩

/-- A lone move to (10, 10), welded to a line to (10, 0). The path ends at (10, 10); the pen stays at
(10, 0), and an arc or a curve starts there. -/
theorem lone_move_leaves_pen :
    let start : Pen ℝ := .plain
    let fragment : Path ℝ := ⟨[.moveTo ⟨10, 10⟩]⟩
    let out := start.run [.moveTo 0 0, .lineTo 10 0, .append fragment]
    start.IsNew ∧ (∃ p rest, fragment.commands = .moveTo p :: rest) ∧
      out.2 = [.moveTo ⟨0, 0⟩, .lineTo ⟨10, 0⟩, .lineTo ⟨10, 10⟩] ∧
      (Path.mk out.2).endPoint = some ⟨10, 10⟩ ∧
      out.1.position.map out.1.toBox = some ⟨10, 0⟩ ∧
      ¬out.1.IsAtEnd out.2 ∧ ¬out.1.ContinuesFrom ⟨10, 10⟩ := by
  intro start fragment out
  have hbox (p : Point ℝ) : start.toBox p = p := toBox_of_scale_one plain_scale p
  have hcommands : out.2 = [.moveTo ⟨0, 0⟩, .lineTo ⟨10, 0⟩, .lineTo ⟨10, 10⟩] := by
    show [Command.moveTo (start.toBox ⟨0, 0⟩), .lineTo (start.toBox ⟨10, 0⟩), .lineTo ⟨10, 10⟩] = _
    rw [hbox, hbox]
  have hend : (Path.mk out.2).endPoint = some ⟨10, 10⟩ := by
    rw [hcommands]
    rfl
  have hpen : out.1.position.map out.1.toBox = some ⟨10, 0⟩ := congrArg some (hbox ⟨10, 0⟩)
  have hbehind : out.1.position.map out.1.toBox ≠ some ⟨10, 10⟩ := by
    rw [hpen]
    intro hsame
    have hheight : (0 : ℝ) = 10 := congrArg Point.y (Option.some.inj hsame)
    norm_num at hheight
  have hnotAtEnd : ¬out.1.IsAtEnd out.2 := by
    rw [IsAtEnd, hend]
    exact hbehind
  have hanchored := run_anchored IsNew.plain.mirrors.tracks.anchored
    [.moveTo 0 0, .lineTo 10 0, .append fragment]
  exact ⟨.plain, ⟨_, _, rfl⟩, hcommands, hend, hpen, hnotAtEnd,
    mt (continuesFrom_iff hanchored _).mp hbehind⟩

end Pen

end ShapeOutline
