import Mathlib
import ShapeOutline.Proofs.Path.OpenEnds
import ShapeOutline.Proofs.Path.Trace
import ShapeOutline.Proofs.Pen.Stretch

/-!
# The pen agrees with the path behind it

The pen keeps, in its local space, where it is, where its subpath began and whether it is drawing. All of
this can be read off the commands that it left as well. While no fragment is appended, the two accounts
agree after every instruction.

* `Command.StillDrawing`: something was drawn since the last move or close;
* `Pen.step_drawing`, `Pen.run_drawing`: the pen knows whether it is drawing;
* `Pen.Anchored`: the pen knows where its subpath began, wherever it takes itself to be;
* `Pen.follow_tracks`, `Pen.append_tracks`: following a command, the pen knows again where it is;
* `Pen.IsNew`, `Pen.Mirrors`: a pen that drew nothing yet, and one that agrees with what it drew;
* `Pen.run_agrees`: the two accounts agree.
-/

namespace ShapeOutline

/-! ## Drawing -/

namespace Command

variable {α : Type}

/-- Something was drawn since the last move or close. -/
def StillDrawing (cs : List (Command α)) : Prop :=
  ∃ before c after, cs = before ++ c :: after ∧ c.draws = true ∧
    ∀ d ∈ after, d.isMove = false ∧ d ≠ .close

/-- Whether the last of some commands draws, or what was so before when there are none. -/
def drawsBehind (drawing : Bool) (cs : List (Command α)) : Bool :=
  cs.foldl (fun _ c => c.draws) drawing

theorem drawsBehind_append (drawing : Bool) (cs ds : List (Command α)) :
    drawsBehind drawing (cs ++ ds) = drawsBehind (drawsBehind drawing cs) ds :=
  List.foldl_append

theorem drawsBehind_concat (drawing : Bool) (cs : List (Command α)) (c : Command α) :
    drawsBehind drawing (cs ++ [c]) = c.draws := by
  rw [drawsBehind_append]
  rfl

/-- Commands that are neither a move nor a close draw. -/
theorem draws_of_not_move {c : Command α} (hmove : c.isMove = false) (hclose : c ≠ .close) :
    c.draws = true := by
  cases c with
  | moveTo p => cases hmove
  | close => exact absurd rfl hclose
  | _ => rfl

/-- What was drawn last counts: behind it there can only be more of it. -/
theorem stillDrawing_iff (cs : List (Command α)) :
    StillDrawing cs ↔ drawsBehind false cs = true := by
  rcases List.eq_nil_or_concat cs with rfl | ⟨cs, c, rfl⟩
  · constructor
    · rintro ⟨before, c, after, hsplit, -⟩
      exact absurd hsplit.symm (List.append_ne_nil_of_right_ne_nil _ (List.cons_ne_nil _ _))
    · exact fun h => nomatch h
  · rw [List.concat_eq_append, drawsBehind_concat]
    constructor
    · rintro ⟨before, d, after, hsplit, hd, hafter⟩
      rcases List.eq_nil_or_concat after with rfl | ⟨after, e, rfl⟩
      · -- the last command is the one that draws
        obtain ⟨-, hlast⟩ := List.append_inj' hsplit rfl
        obtain rfl : c = d := List.head_eq_of_cons_eq hlast
        exact hd
      · rw [List.concat_eq_append] at hsplit hafter
        have hsplit' : cs ++ [c] = (before ++ d :: after) ++ [e] := by
          rw [hsplit, List.append_assoc, List.cons_append]
        obtain ⟨-, hlast⟩ := List.append_inj' hsplit' rfl
        obtain rfl : c = e := List.head_eq_of_cons_eq hlast
        obtain ⟨hmove, hclose⟩ := hafter c (List.mem_append_right _ List.mem_cons_self)
        exact draws_of_not_move hmove hclose
    · intro hc
      exact ⟨cs, c, [], rfl, hc, List.forall_mem_nil _⟩

variable [Scalar α]

theorem draws_ofArc (a : Arc α) : (ofArc a).draws = true := by
  unfold ofArc
  split <;> rfl

end Command

namespace Pen

open Command (drawsBehind drawsBehind_append drawsBehind_concat)

section

variable {α : Type} [Scalar α] (pen : Pen α)

theorem follow_drawing (c : Command α) : (pen.follow c).drawing = c.draws := by
  cases c <;> rfl

theorem foldl_follow_drawing (cs : List (Command α)) :
    (cs.foldl follow pen).drawing = drawsBehind pen.drawing cs := by
  induction cs generalizing pen with
  | nil => rfl
  | cons c cs ih =>
    rw [List.foldl_cons, ih, follow_drawing]
    rfl

theorem append_drawing (fragment : Path α) :
    (pen.append fragment).1.drawing = drawsBehind pen.drawing (pen.append fragment).2 := by
  unfold append
  split
  · next p rest hdrawing hcommands =>
    -- the line that the move becomes draws, and the pen was drawing
    show (rest.foldl follow pen).drawing = drawsBehind true rest
    rw [foldl_follow_drawing, hdrawing]
  · exact pen.foldl_follow_drawing fragment.commands

omit [Scalar α] in
/-- A pen that draws a command last is drawing. -/
theorem drawing_eq_of_draws {out : Pen α × List (Command α)} {cs : List (Command α)} {c : Command α}
    (hdrawing : out.1.drawing = true) (hout : out.2 = cs ++ [c]) (hc : c.draws = true)
    (before : Bool) : out.1.drawing = drawsBehind before out.2 := by
  rw [hdrawing, hout, drawsBehind_concat, hc]

/-- Whether the pen is drawing after an instruction, from what the instruction leaves behind. -/
theorem step_drawing (i : Instruction α) :
    (pen.step i).1.drawing = drawsBehind pen.drawing (pen.step i).2 := by
  cases i with
  | moveTo x y => rfl
  | lineTo x y => exact drawing_eq_of_draws rfl rfl rfl _
  | cubicTo x1 y1 x2 y2 x y => exact drawing_eq_of_draws rfl rfl rfl _
  | quadTo qx qy x y => exact drawing_eq_of_draws rfl (List.append_assoc _ _ _).symm rfl _
  | arcTo wr hr start sweep =>
    show (pen.ellipticalArc wr hr start sweep).1.drawing
      = drawsBehind _ (pen.ellipticalArc wr hr start sweep).2
    unfold ellipticalArc
    dsimp only
    split
    · exact drawing_eq_of_draws rfl rfl (Command.draws_ofArc _) _
    · exact drawing_eq_of_draws rfl (List.append_assoc _ _ _).symm rfl _
  | arc spec wedge => exact pen.append_drawing _
  | append fragment => exact pen.append_drawing fragment
  | close =>
    show pen.closed.1.drawing = drawsBehind _ pen.closed.2
    unfold closed
    split <;> rfl

/-- Whether the pen is drawing after instructions, from what they leave behind. -/
theorem run_drawing (is : List (Instruction α)) :
    (pen.run is).1.drawing = drawsBehind pen.drawing (pen.run is).2 := by
  induction is generalizing pen with
  | nil => rfl
  | cons i is ih =>
    show ((pen.step i).1.run is).1.drawing
      = drawsBehind pen.drawing ((pen.step i).2 ++ ((pen.step i).1.run is).2)
    rw [ih, step_drawing, drawsBehind_append]

end

/-! ## Where the pen is -/

/-- The local space of the pen is stretched, and its subpath began where the trail says. The pen itself
may be elsewhere. -/
structure Anchored (pen : Pen ℝ) (t : Trail ℝ) : Prop where
  width_pos : 0 < pen.scale.x
  height_pos : 0 < pen.scale.y
  start : t.start = pen.subpathStart.map pen.toBox

variable {pen : Pen ℝ} {t : Trail ℝ}

theorem Tracks.anchored (h : pen.Tracks t) : pen.Anchored t :=
  ⟨h.width_pos, h.height_pos, h.start⟩

/-- A point of the box, taken to local space and back. -/
theorem Anchored.toBox_toSpace (h : pen.Anchored t) (p : Point ℝ) :
    pen.toBox (p.stretch ⟨@OfNat.ofNat ℝ 1 (Scalar.literal 1) / pen.scale.x,
      @OfNat.ofNat ℝ 1 (Scalar.literal 1) / pen.scale.y⟩) = p := by
  have hone : @OfNat.ofNat ℝ 1 (Scalar.literal 1) = 1 := Nat.cast_one
  have hx : p.x * (1 / pen.scale.x) * pen.scale.x = p.x := by
    rw [mul_assoc, one_div_mul_cancel h.width_pos.ne', mul_one]
  have hy : p.y * (1 / pen.scale.y) * pen.scale.y = p.y := by
    rw [mul_assoc, one_div_mul_cancel h.height_pos.ne', mul_one]
  rw [hone]
  exact congrArg₂ Point.mk hx hy

/-- The pen that follows a command knows where it is, wherever it took itself to be before. -/
theorem follow_tracks (h : pen.Anchored t) (c : Command ℝ) : (pen.follow c).Tracks (t.step c) := by
  have hend (q : Point ℝ) : some q = (some q).map fun p =>
      pen.toBox (p.stretch ⟨@OfNat.ofNat ℝ 1 (Scalar.literal 1) / pen.scale.x,
        @OfNat.ofNat ℝ 1 (Scalar.literal 1) / pen.scale.y⟩) :=
    congrArg some (h.toBox_toSpace q).symm
  cases c with
  | moveTo p => exact ⟨h.width_pos, h.height_pos, hend p, hend p⟩
  | close => exact ⟨h.width_pos, h.height_pos, h.start, h.start⟩
  | lineTo p => exact ⟨h.width_pos, h.height_pos, hend p, h.start⟩
  | cubicTo c1 c2 p => exact ⟨h.width_pos, h.height_pos, hend p, h.start⟩
  | arcTo a => exact ⟨h.width_pos, h.height_pos, hend _, h.start⟩

/-- The pen that follows some commands knows where it is, if there are any. -/
theorem foldl_follow_tracks (h : pen.Anchored t) (c : Command ℝ) (cs : List (Command ℝ)) :
    ((c :: cs).foldl follow pen).Tracks ((c :: cs).foldl Trail.step t) := by
  induction cs generalizing pen t c with
  | nil => exact follow_tracks h c
  | cons d cs ih => exact ih (follow_tracks h c).anchored d

theorem foldl_follow_anchored (h : pen.Anchored t) (cs : List (Command ℝ)) :
    (cs.foldl follow pen).Anchored (cs.foldl Trail.step t) := by
  cases cs with
  | nil => exact h
  | cons c cs => exact (foldl_follow_tracks h c cs).anchored

/-- A line is drawn within a subpath. -/
theorem Anchored.step_lineTo (h : pen.Anchored t) (p : Point ℝ) :
    pen.Anchored (t.step (.lineTo p)) :=
  ⟨h.width_pos, h.height_pos, h.start⟩

/-- A fragment that begins with a move and goes on leaves the pen where its last command ends. -/
theorem append_tracks (h : pen.Anchored t) {fragment : Path ℝ} {p : Point ℝ} {c : Command ℝ}
    {rest : List (Command ℝ)} (hfragment : fragment.commands = .moveTo p :: c :: rest) :
    (pen.append fragment).1.Tracks ((pen.append fragment).2.foldl Trail.step t) := by
  unfold append
  rw [hfragment]
  split
  · next q rest' _ hcommands =>
    obtain rfl : c :: rest = rest' := List.tail_eq_of_cons_eq hcommands
    exact foldl_follow_tracks (h.step_lineTo q) c rest
  · exact foldl_follow_tracks h (.moveTo p) (c :: rest)

/-- No fragment makes the pen forget where its subpath began. -/
theorem append_anchored (h : pen.Anchored t) (fragment : Path ℝ) :
    (pen.append fragment).1.Anchored ((pen.append fragment).2.foldl Trail.step t) := by
  unfold append
  split
  · next p rest _ _ => exact foldl_follow_anchored (h.step_lineTo p) rest
  · exact foldl_follow_anchored h fragment.commands

/-- An arc by itself begins with a move and goes on. -/
theorem exists_commands_ofArc (a : Arc ℝ) (wedge : Bool) (sx sy : ℝ) :
    ∃ p c rest, ((Path.ofArc a wedge).scaled sx sy).commands = .moveTo p :: c :: rest :=
  ⟨_, _, _, rfl⟩

/-- An instruction that appends no fragment leaves the pen where its commands end. -/
theorem step_tracks (h : pen.Tracks t) {i : Instruction ℝ} (hi : i.isAppend = false) :
    (pen.step i).1.Tracks ((pen.step i).2.foldl Trail.step t) := by
  cases i with
  | arc spec wedge =>
    obtain ⟨p, c, rest, hfragment⟩ := exists_commands_ofArc spec wedge pen.scale.x pen.scale.y
    exact append_tracks h.anchored hfragment
  | append fragment => cases hi
  | _ => exact (step_leads h rfl).tracks

/-- Where a subpath began is known from where it began before, whatever happened to the pen. -/
theorem foldl_step_start (cs : List (Command ℝ)) {t u : Trail ℝ} (h : t.start = u.start) :
    (cs.foldl Trail.step t).start = (cs.foldl Trail.step u).start := by
  induction cs generalizing t u with
  | nil => exact h
  | cons c cs ih =>
    refine ih ?_
    cases c with
    | moveTo p => rfl
    | _ => exact h

/-- No instruction makes the pen forget where its subpath began. -/
theorem step_anchored (h : pen.Anchored t) (i : Instruction ℝ) :
    (pen.step i).1.Anchored ((pen.step i).2.foldl Trail.step t) := by
  by_cases happend : i.isAppend = true
  · cases i with
    | append fragment => exact append_anchored h fragment
    | _ => cases happend
  · -- the pen tracks the trail that differs from this one in where the pen is
    let here : Trail ℝ := ⟨pen.position.map pen.toBox, t.start, t.heading⟩
    have htracks : pen.Tracks here := ⟨h.width_pos, h.height_pos, rfl, h.start⟩
    have hstep := step_tracks htracks (Bool.not_eq_true _ ▸ happend)
    have hstart : t.start = here.start := rfl
    exact ⟨hstep.width_pos, hstep.height_pos, (foldl_step_start _ hstart).trans hstep.start⟩

theorem run_anchored (h : pen.Anchored t) (is : List (Instruction ℝ)) :
    (pen.run is).1.Anchored ((pen.run is).2.foldl Trail.step t) := by
  induction is generalizing pen t with
  | nil => exact h
  | cons i is ih =>
    show ((pen.step i).1.run is).1.Anchored
      (((pen.step i).2 ++ ((pen.step i).1.run is).2).foldl Trail.step t)
    rw [List.foldl_append]
    exact ih (step_anchored h i)

/-! ## The whole path -/

/-- A pen that drew nothing yet: its space is the box, or it is stretched onto it. -/
inductive IsNew : Pen ℝ → Prop where
  | plain : IsNew .plain
  | inSpace {targetW targetH localW localH : ℝ} :
    0 < factor targetW localW → 0 < factor targetH localH →
      IsNew (.inSpace targetW targetH localW localH)

/-- The pen agrees with the commands that it left: they begin with a move, the pen is where they end, and
it is drawing when they do. -/
structure Mirrors (pen : Pen ℝ) (cs : List (Command ℝ)) : Prop where
  tracks : pen.Tracks (Path.mk cs).trail
  begins : cs = [] ∨ ∃ p rest, cs = .moveTo p :: rest
  drawing : pen.drawing = drawsBehind false cs

/-- A space is stretched onto a box that has an interior, even when it has none itself. -/
theorem factor_pos {target : ℝ} (h : 0 < target) (extent : ℝ) : 0 < factor target extent := by
  unfold factor
  rw [Exact.literal_zero]
  split
  · next hextent => exact div_pos h hextent
  · show (0 : ℝ) < (1 : ℕ)
    norm_num

theorem IsNew.mirrors (h : pen.IsNew) : pen.Mirrors [] := by
  cases h with
  | plain =>
    have htracks : (Pen.plain : Pen ℝ).Tracks Trail.fresh := by
      refine ⟨?_, ?_, rfl, rfl⟩
      · rw [plain_scale]
        exact one_pos
      · rw [plain_scale]
        exact one_pos
    exact ⟨htracks, .inl rfl, rfl⟩
  | inSpace hw hh => exact ⟨⟨hw, hh, rfl, rfl⟩, .inl rfl, rfl⟩

namespace Mirrors

variable {cs : List (Command ℝ)}

/-- The pen is up exactly when it left nothing. -/
theorem position_eq_none_iff (h : pen.Mirrors cs) : pen.position = none ↔ cs = [] := by
  rw [← Option.map_eq_none_iff (f := pen.toBox), ← h.tracks.position]
  constructor
  · intro hpen
    rcases h.begins with hnil | ⟨p, rest, rfl⟩
    · exact hnil
    · -- behind a move the pen is down
      have hdown := (Trail.IsDown.of_move p rest).pen
      rw [hpen] at hdown
      cases hdown
  · rintro rfl
    rfl

/-- The first command that the pen leaves is a move. -/
theorem step_begins (h : pen.Mirrors []) {i : Instruction ℝ} (hi : i.isAppend = false) :
    (pen.step i).2 = [] ∨ ∃ p rest, (pen.step i).2 = .moveTo p :: rest := by
  have hpos : pen.position = none := h.position_eq_none_iff.mpr rfl
  by_cases hdirect : i.isDirect = true
  · have hrun := run_begins hpos (List.forall_mem_singleton.mpr hdirect)
    have hstep : (pen.run [i]).2 = (pen.step i).2 := List.append_nil _
    rwa [hstep] at hrun
  · cases i with
    | arc spec wedge =>
      -- the pen is not drawing, and keeps the move of the fragment
      obtain ⟨p, c, rest, hfragment⟩ := exists_commands_ofArc spec wedge pen.scale.x pen.scale.y
      right
      show ∃ q rest, (pen.append _).2 = _
      unfold append
      rw [h.drawing, hfragment]
      exact ⟨p, c :: rest, rfl⟩
    | append fragment => cases hi
    | _ => exact absurd rfl hdirect

/-- An instruction that appends no fragment keeps the pen in agreement with its commands. -/
theorem step (h : pen.Mirrors cs) {i : Instruction ℝ} (hi : i.isAppend = false) :
    (pen.step i).1.Mirrors (cs ++ (pen.step i).2) := by
  refine ⟨?_, ?_, ?_⟩
  · unfold Path.trail
    rw [List.foldl_append]
    exact step_tracks h.tracks hi
  · rcases h.begins with rfl | ⟨p, rest, rfl⟩
    · exact h.step_begins hi
    · exact .inr ⟨p, rest ++ (pen.step i).2, rfl⟩
  · rw [step_drawing, drawsBehind_append, h.drawing]

/-- Instructions that append no fragments keep the pen in agreement with its commands. -/
theorem run (h : pen.Mirrors cs) {is : List (Instruction ℝ)}
    (his : ∀ i ∈ is, i.isAppend = false) : (pen.run is).1.Mirrors (cs ++ (pen.run is).2) := by
  induction is generalizing pen cs with
  | nil =>
    show pen.Mirrors (cs ++ [])
    rwa [List.append_nil]
  | cons i is ih =>
    obtain ⟨hi, his⟩ := List.forall_mem_cons.mp his
    show ((pen.step i).1.run is).1.Mirrors (cs ++ ((pen.step i).2 ++ ((pen.step i).1.run is).2))
    rw [← List.append_assoc]
    exact ih (h.step hi) his

end Mirrors

/-- After any instructions but appended fragments, the pen agrees with the path that it left: it is up
exactly when there are no commands; else it is where the path ends, the path begins with a move, and the
pen is drawing exactly when something was drawn since the last move or close. -/
theorem run_agrees {start : Pen ℝ} (hstart : start.IsNew) {is : List (Instruction ℝ)}
    (his : ∀ i ∈ is, i.isAppend = false) :
    ∃ pen cs, start.run is = (pen, cs) ∧
      (pen.position = none ↔ cs = []) ∧
      (Path.mk cs).endPoint = pen.position.map pen.toBox ∧
      (cs = [] ∨ ∃ p rest, cs = .moveTo p :: rest) ∧
      (pen.drawing = true ↔ Command.StillDrawing cs) := by
  have hmirrors : (start.run is).1.Mirrors (start.run is).2 := hstart.mirrors.run his
  refine ⟨_, _, rfl, hmirrors.position_eq_none_iff, hmirrors.tracks.position, hmirrors.begins, ?_⟩
  rw [Command.stillDrawing_iff, hmirrors.drawing]

/-- A closed ellipse, a chain without points, a line from where the ellipse began, an arc without an ellipse,
a wedge that is welded to it and a curve, drawn in a space of 2 by 4 on a box of 200 by 100. -/
theorem run_agrees_figures :
    let start : Pen ℝ := .inSpace 200 100 2 4
    let is : List (Instruction ℝ) :=
      Instruction.ellipse 1 2 1 2 ++ Instruction.polyline []
        ++ [.lineTo 1 1, .arcTo 0 3 0 90, .arc ⟨⟨1, 2⟩, 1, 2, 0, 270⟩ true, .quadTo 2 3 2 2]
    start.IsNew ∧ (∀ i ∈ is, i.isAppend = false) ∧
      ∃ pen cs, start.run is = (pen, cs) ∧
        (pen.position = none ↔ cs = []) ∧
        (Path.mk cs).endPoint = pen.position.map pen.toBox ∧
        (cs = [] ∨ ∃ p rest, cs = .moveTo p :: rest) ∧
        (pen.drawing = true ↔ Command.StillDrawing cs) := by
  intro start is
  have hstart : start.IsNew := .inSpace (factor_pos (by norm_num) 2) (factor_pos (by norm_num) 4)
  have his : ∀ i ∈ is, i.isAppend = false := by
    simp only [is, List.forall_mem_append]
    exact ⟨⟨Instruction.isAppend_ellipse _ _ _ _, Instruction.isAppend_polyline _⟩,
      by simp [Instruction.isAppend]⟩
  exact ⟨hstart, his, run_agrees hstart his⟩

end Pen

end ShapeOutline
