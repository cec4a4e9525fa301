import Mathlib
import ShapeOutline.Proofs.Path.Continuity
import ShapeOutline.Proofs.Path.Sketch

/-!
# The pen and its path

The pen knows where it is in its local space; the commands that it leaves behind know it in the box.
While the local space is stretched and not collapsed or mirrored, the two agree after every
instruction, and so every arc begins where the pen is.

* `Pen.Tracks`: the pen agrees with the trail of the commands;
* `Trail.Leads`: some commands go on along a trail, and the pen behind them tracks it;
* `Pen.step_leads`, `Pen.run_leads`: what one instruction and a list of them keep;
* `Pen.draw_penContinuous`: the path of a pen that was not put down yet.

A local space that is collapsed or mirrored has no ellipses, and its paths no arcs.
-/

namespace ShapeOutline

/-- The local space of the pen is stretched, and the pen and the beginning of its subpath lie where
the trail says. -/
structure Pen.Tracks (pen : Pen ℝ) (t : Trail ℝ) : Prop where
  width_pos : 0 < pen.scale.x
  height_pos : 0 < pen.scale.y
  position : t.pen = pen.position.map pen.toBox
  start : t.start = pen.subpathStart.map pen.toBox

/-- The commands go on along the trail, and the pen behind them tracks it. -/
structure Trail.Leads (t : Trail ℝ) (out : Pen ℝ × List (Command ℝ)) : Prop where
  continues : t.Continues out.2
  tracks : out.1.Tracks (out.2.foldl Trail.step t)

namespace Trail.Leads

variable {t : Trail ℝ} {pen pen' : Pen ℝ} {cs ds : List (Command ℝ)}

theorem trans (hcs : t.Leads (pen, cs)) (hds : (cs.foldl step t).Leads (pen', ds)) :
    t.Leads (pen', cs ++ ds) where
  continues := (continues_append t cs ds).mpr ⟨hcs.continues, hds.continues⟩
  tracks := by
    rw [List.foldl_append]
    exact hds.tracks

end Trail.Leads

namespace Pen

variable {pen : Pen ℝ} {t : Trail ℝ}

namespace Tracks

theorem leads_nil (h : pen.Tracks t) : t.Leads (pen, []) := ⟨trivial, h⟩

/-- Putting the pen down somewhere else. -/
theorem leads_moveTo (h : pen.Tracks t) (p : Point ℝ) :
    t.Leads (pen.movedTo p, [.moveTo (pen.toBox p)]) := by
  have hcontinues : t.Continues [.moveTo (pen.toBox p)] := ⟨trivial, trivial⟩
  have htracks : (pen.movedTo p).Tracks (t.step (.moveTo (pen.toBox p))) :=
    ⟨h.width_pos, h.height_pos, rfl, rfl⟩
  exact ⟨hcontinues, htracks⟩

/-- Drawing a command that begins at the pen to where the pen goes. -/
theorem leads_drawn (h : pen.Tracks t) {c : Command ℝ} {p : Point ℝ} (hbegin : c.BeginsAt t.pen)
    (hend : (t.step c).pen = some (pen.toBox p)) (hstart : (t.step c).start = t.start) :
    t.Leads (pen.drawnTo p, [c]) := by
  have hcontinues : t.Continues [c] := ⟨hbegin, trivial⟩
  have htracks : (pen.drawnTo p).Tracks (t.step c) :=
    ⟨h.width_pos, h.height_pos, hend, hstart.trans h.start⟩
  exact ⟨hcontinues, htracks⟩

/-- A pen that is made ready tracks the trail, and is where drawing starts. -/
theorem leads_ready (h : pen.Tracks t) :
    t.Leads (pen.ready.1, pen.ready.2.2) ∧ pen.ready.1.position = some pen.ready.2.1 := by
  unfold ready
  cases hpos : pen.position with
  | some p => exact ⟨h.leads_nil, hpos⟩
  | none => exact ⟨h.leads_moveTo Point.origin, rfl⟩

end Tracks

theorem line_leads (h : pen.Tracks t) (p : Point ℝ) : t.Leads (pen.line p) := by
  obtain ⟨hready, -⟩ := h.leads_ready
  have hdrawn := hready.tracks.leads_drawn (c := .lineTo (pen.ready.1.toBox p)) trivial rfl rfl
  exact hready.trans hdrawn

theorem cubic_leads (h : pen.Tracks t) (c1 c2 p : Point ℝ) : t.Leads (pen.cubic c1 c2 p) := by
  obtain ⟨hready, -⟩ := h.leads_ready
  exact hready.trans (hready.tracks.leads_drawn trivial rfl rfl)

theorem quadratic_leads (h : pen.Tracks t) (q p : Point ℝ) : t.Leads (pen.quadratic q p) := by
  obtain ⟨hready, -⟩ := h.leads_ready
  exact hready.trans (cubic_leads hready.tracks _ _ p)

/-- The point of the arc in the box, from the point of the ellipse in local space. -/
theorem pointAt_toBox (pen : Pen ℝ) (center : Point ℝ) (wr hr start stop deg : ℝ) :
    (Arc.mk (pen.toBox center) (wr * pen.scale.x) (hr * pen.scale.y) start stop).pointAt deg
      = pen.toBox (ellipsePoint center wr hr deg) := by
  ext
  · show center.x * pen.scale.x + wr * pen.scale.x * _ = (center.x + wr * _) * pen.scale.x
    ring
  · show center.y * pen.scale.y + hr * pen.scale.y * _ = (center.y + hr * _) * pen.scale.y
    ring

/-- An ellipse around the point from which the pen is seen passes through the pen. -/
theorem ellipsePoint_sub (p : Point ℝ) (rx ry deg : ℝ) :
    ellipsePoint (p - ellipsePoint Point.origin rx ry deg) rx ry deg = p := by
  have hzero : (Point.origin : Point ℝ) = ⟨0, 0⟩ := by
    rw [Point.origin, Exact.literal_zero]
  rw [hzero]
  ext
  · show p.x - (0 + rx * (sinCos deg).2) + rx * (sinCos deg).2 = p.x
    ring
  · show p.y - (0 + ry * (sinCos deg).1) + ry * (sinCos deg).1 = p.y
    ring

/-- The radii span an ellipse when they are positive. -/
theorem isDegenerate_iff (a : Arc ℝ) : a.isDegenerate = true ↔ ¬(0 < a.rx ∧ 0 < a.ry) := by
  unfold Arc.isDegenerate
  rw [Exact.literal_zero]
  simp only [Scalar.isFinite, Bool.and_true, Bool.not_eq_true', Bool.and_eq_false_iff,
    decide_eq_false_iff_not]
  exact not_and_or.symm

theorem not_isDegenerate {a : Arc ℝ} (hrx : 0 < a.rx) (hry : 0 < a.ry) : ¬a.isDegenerate = true :=
  mt (isDegenerate_iff a).mp (not_not_intro ⟨hrx, hry⟩)

/-- An arc with radii is drawn as an arc. -/
theorem ofArc_of_pos {a : Arc ℝ} (hrx : 0 < a.rx) (hry : 0 < a.ry) : Command.ofArc a = .arcTo a :=
  if_neg (not_isDegenerate hrx hry)

theorem ready_scale (pen : Pen ℝ) : pen.ready.1.scale = pen.scale := by
  unfold ready
  split <;> rfl

theorem ready_of_position {pen : Pen ℝ} {p : Point ℝ} (hpos : pen.position = some p) :
    pen.ready = (pen, p, []) := by
  rw [ready, hpos]

/-- A pen that was made ready is ready. -/
theorem ready_ready (pen : Pen ℝ) : pen.ready.1.ready = (pen.ready.1, pen.ready.2.1, []) := by
  cases hpos : pen.position with
  | some p => rw [ready_of_position hpos, ready_of_position hpos]
  | none =>
    have hready : pen.ready = (pen.movedTo Point.origin, Point.origin,
        [.moveTo (pen.toBox Point.origin)]) := by rw [ready, hpos]
    rw [hready]
    rfl

/-- An elliptical arc has its centre where the ellipse passes through the pen in the first direction. -/
theorem ellipticalArc_of_pos (pen : Pen ℝ) {wr hr : ℝ} (hwr : 0 < wr) (hhr : 0 < hr)
    (start sweep : ℝ) :
    let center := pen.ready.2.1 - ellipsePoint Point.origin wr hr (parametricAngle start wr hr)
    pen.ellipticalArc wr hr start sweep
      = (pen.ready.1.drawnTo (ellipsePoint center wr hr (parametricAngle (start + sweep) wr hr)),
          pen.ready.2.2 ++ [.ofArc ⟨pen.toBox center, wr * pen.scale.x, hr * pen.scale.y,
            parametricAngle start wr hr, parametricAngle (start + sweep) wr hr⟩]) := by
  intro center
  have hradii : @OfNat.ofNat ℝ 0 (Scalar.literal 0) < wr ∧
      @OfNat.ofNat ℝ 0 (Scalar.literal 0) < hr := by
    rw [Exact.literal_zero]
    exact ⟨hwr, hhr⟩
  rw [toBox, ← pen.ready_scale]
  exact if_pos hradii

/-- Without an ellipse, a line that goes nowhere is drawn for it. -/
theorem ellipticalArc_of_not_pos (pen : Pen ℝ) {wr hr : ℝ} (h : ¬(0 < wr ∧ 0 < hr))
    (start sweep : ℝ) :
    pen.ellipticalArc wr hr start sweep
      = (pen.ready.1.drawnTo pen.ready.2.1,
          pen.ready.2.2 ++ [.lineTo (pen.toBox pen.ready.2.1)]) := by
  rw [← Exact.literal_zero] at h
  unfold ellipticalArc line
  dsimp only
  rw [if_neg h, pen.ready_ready, toBox, toBox, pen.ready_scale]
  rfl

/-- In a space with an extent, an arc from where the pen is: its centre is where the ellipse passes through
the pen. -/
theorem ellipticalArc_of_position {pen : Pen ℝ} {p : Point ℝ} (hpos : pen.position = some p)
    (hwidth : 0 < pen.scale.x) (hheight : 0 < pen.scale.y) {wr hr : ℝ} (hwr : 0 < wr) (hhr : 0 < hr)
    (start sweep : ℝ) :
    let center := p - ellipsePoint Point.origin wr hr (parametricAngle start wr hr)
    pen.ellipticalArc wr hr start sweep
      = (pen.drawnTo (ellipsePoint center wr hr (parametricAngle (start + sweep) wr hr)),
          [.arcTo ⟨pen.toBox center, wr * pen.scale.x, hr * pen.scale.y,
            parametricAngle start wr hr, parametricAngle (start + sweep) wr hr⟩]) := by
  have hrx : 0 < wr * pen.scale.x := mul_pos hwr hwidth
  have hry : 0 < hr * pen.scale.y := mul_pos hhr hheight
  rw [ellipticalArc_of_pos pen hwr hhr, ready_of_position hpos, List.nil_append, ofArc_of_pos hrx hry]

/-- Without an ellipse, a line from where the pen is. -/
theorem ellipticalArc_of_position_of_not_pos {pen : Pen ℝ} {p : Point ℝ}
    (hpos : pen.position = some p) {wr hr : ℝ} (h : ¬(0 < wr ∧ 0 < hr)) (start sweep : ℝ) :
    pen.ellipticalArc wr hr start sweep = (pen.drawnTo p, [.lineTo (pen.toBox p)]) := by
  rw [ellipticalArc_of_not_pos pen h, ready_of_position hpos, List.nil_append]

theorem ellipticalArc_leads (h : pen.Tracks t) (wr hr start sweep : ℝ) :
    t.Leads (pen.ellipticalArc wr hr start sweep) := by
  obtain ⟨hready, hpos⟩ := h.leads_ready
  by_cases hradii : 0 < wr ∧ 0 < hr
  · obtain ⟨hwr, hhr⟩ := hradii
    have hrx := mul_pos hwr h.width_pos
    have hry := mul_pos hhr h.height_pos
    rw [ellipticalArc_of_pos pen hwr hhr, ofArc_of_pos hrx hry]
    have hbox (p : Point ℝ) : pen.ready.1.toBox p = pen.toBox p := by
      rw [toBox, toBox, ready_scale]
    -- the centre is where the ellipse passes through the pen at the first angle
    refine hready.trans (hready.tracks.leads_drawn ?_ ?_ rfl)
    · show _ = some (Arc.pointAt _ _)
      rw [pointAt_toBox, ellipsePoint_sub, hready.tracks.position, hpos, Option.map_some, hbox]
    · show some (Arc.pointAt _ _) = _
      rw [pointAt_toBox, hbox]
  · rw [ellipticalArc_of_not_pos pen hradii]
    exact hready.trans (hready.tracks.leads_drawn trivial (by rw [toBox, ← ready_scale]; rfl) rfl)

theorem closed_leads (h : pen.Tracks t) : t.Leads pen.closed := by
  unfold closed
  cases pen.position with
  | some p =>
    -- both go back to where the subpath began
    have htracks : Tracks { pen with position := pen.subpathStart, drawing := false }
        (t.step .close) :=
      ⟨h.width_pos, h.height_pos, h.start, h.start⟩
    exact ⟨⟨trivial, trivial⟩, htracks⟩
  | none => exact h.leads_nil

/-- What one instruction leaves behind can be drawn where the pen is. -/
theorem step_leads (h : pen.Tracks t) {i : Instruction ℝ} (hi : i.isDirect = true) :
    t.Leads (pen.step i) := by
  cases i with
  | moveTo x y => exact h.leads_moveTo ⟨x, y⟩
  | lineTo x y => exact line_leads h ⟨x, y⟩
  | cubicTo x1 y1 x2 y2 x y => exact cubic_leads h ⟨x1, y1⟩ ⟨x2, y2⟩ ⟨x, y⟩
  | quadTo qx qy x y => exact quadratic_leads h ⟨qx, qy⟩ ⟨x, y⟩
  | arcTo wr hr start sweep => exact ellipticalArc_leads h wr hr start sweep
  | arc spec wedge => cases hi
  | append fragment => cases hi
  | close => exact closed_leads h

/-- What instructions leave behind can be drawn where the pen is. -/
theorem run_leads (h : pen.Tracks t) {is : List (Instruction ℝ)}
    (his : ∀ i ∈ is, i.isDirect = true) : t.Leads (pen.run is) := by
  induction is generalizing pen t with
  | nil => exact h.leads_nil
  | cons i is ih =>
    obtain ⟨hi, his⟩ := List.forall_mem_cons.mp his
    have hstep : t.Leads (pen.step i) := step_leads h hi
    have hrest := ih hstep.tracks his
    exact hstep.trans hrest

/-! ## A local space without ellipses -/

theorem step_scale (pen : Pen ℝ) {i : Instruction ℝ} (hi : i.isDirect = true) :
    (pen.step i).1.scale = pen.scale := by
  cases i with
  | moveTo x y => rfl
  | lineTo x y => exact pen.ready_scale
  | cubicTo x1 y1 x2 y2 x y => exact pen.ready_scale
  | quadTo qx qy x y => exact pen.ready.1.ready_scale.trans pen.ready_scale
  | arcTo wr hr start sweep =>
    show (pen.ellipticalArc wr hr start sweep).1.scale = _
    by_cases hradii : 0 < wr ∧ 0 < hr
    · rw [ellipticalArc_of_pos pen hradii.1 hradii.2]
      exact pen.ready_scale
    · rw [ellipticalArc_of_not_pos pen hradii]
      exact pen.ready_scale
  | arc spec wedge => cases hi
  | append fragment => cases hi
  | close =>
    show pen.closed.1.scale = _
    unfold closed
    split <;> rfl

/-- An arc without a positive radius is drawn as a line. -/
theorem ofArc_beginsAt {a : Arc ℝ} (h : ¬(0 < a.rx ∧ 0 < a.ry)) (q : Option (Point ℝ)) :
    (Command.ofArc a).BeginsAt q := by
  rw [Command.ofArc, if_pos ((isDegenerate_iff a).mpr h)]
  trivial

theorem ready_beginsAt (pen : Pen ℝ) (q : Option (Point ℝ)) :
    ∀ c ∈ pen.ready.2.2, c.BeginsAt q := by
  unfold ready
  split
  · exact List.forall_mem_nil _
  · exact List.forall_mem_singleton.mpr trivial

theorem line_beginsAt (pen : Pen ℝ) (p : Point ℝ) (q : Option (Point ℝ)) :
    ∀ c ∈ (pen.line p).2, c.BeginsAt q :=
  List.forall_mem_append.mpr ⟨pen.ready_beginsAt q, List.forall_mem_singleton.mpr trivial⟩

theorem cubic_beginsAt (pen : Pen ℝ) (c1 c2 p : Point ℝ) (q : Option (Point ℝ)) :
    ∀ c ∈ (pen.cubic c1 c2 p).2, c.BeginsAt q :=
  List.forall_mem_append.mpr ⟨pen.ready_beginsAt q, List.forall_mem_singleton.mpr trivial⟩

/-- A positive radius is not positive any more once the local space is collapsed or mirrored. -/
theorem not_radii_pos {pen : Pen ℝ} (h : ¬(0 < pen.scale.x ∧ 0 < pen.scale.y)) {wr hr : ℝ}
    (hwr : 0 < wr) (hhr : 0 < hr) : ¬(0 < wr * pen.scale.x ∧ 0 < hr * pen.scale.y) := by
  intro hpos
  exact h ⟨(mul_pos_iff_of_pos_left hwr).mp hpos.1, (mul_pos_iff_of_pos_left hhr).mp hpos.2⟩

theorem ellipticalArc_beginsAt {pen : Pen ℝ} (h : ¬(0 < pen.scale.x ∧ 0 < pen.scale.y))
    (wr hr start sweep : ℝ) (q : Option (Point ℝ)) :
    ∀ c ∈ (pen.ellipticalArc wr hr start sweep).2, c.BeginsAt q := by
  by_cases hradii : 0 < wr ∧ 0 < hr
  · rw [ellipticalArc_of_pos pen hradii.1 hradii.2]
    refine List.forall_mem_append.mpr ⟨pen.ready_beginsAt q, List.forall_mem_singleton.mpr ?_⟩
    exact ofArc_beginsAt (not_radii_pos h hradii.1 hradii.2) q
  · rw [ellipticalArc_of_not_pos pen hradii]
    exact List.forall_mem_append.mpr
      ⟨pen.ready_beginsAt q, List.forall_mem_singleton.mpr trivial⟩

theorem step_beginsAt {pen : Pen ℝ} (h : ¬(0 < pen.scale.x ∧ 0 < pen.scale.y))
    {i : Instruction ℝ} (hi : i.isDirect = true) (q : Option (Point ℝ)) :
    ∀ c ∈ (pen.step i).2, c.BeginsAt q := by
  cases i with
  | moveTo x y => exact List.forall_mem_singleton.mpr trivial
  | lineTo x y => exact pen.line_beginsAt ⟨x, y⟩ q
  | cubicTo x1 y1 x2 y2 x y => exact pen.cubic_beginsAt ⟨x1, y1⟩ ⟨x2, y2⟩ ⟨x, y⟩ q
  | quadTo qx qy x y =>
    exact List.forall_mem_append.mpr ⟨pen.ready_beginsAt q, pen.ready.1.cubic_beginsAt _ _ _ q⟩
  | arcTo wr hr start sweep => exact ellipticalArc_beginsAt h wr hr start sweep q
  | arc spec wedge => cases hi
  | append fragment => cases hi
  | close =>
    show ∀ c ∈ pen.closed.2, _
    unfold closed
    split
    · exact List.forall_mem_singleton.mpr trivial
    · exact List.forall_mem_nil _

/-- A pen whose local space is collapsed or mirrored draws no arcs. -/
theorem run_beginsAt {pen : Pen ℝ} (h : ¬(0 < pen.scale.x ∧ 0 < pen.scale.y))
    {is : List (Instruction ℝ)} (his : ∀ i ∈ is, i.isDirect = true) (q : Option (Point ℝ)) :
    ∀ c ∈ (pen.run is).2, c.BeginsAt q := by
  induction is generalizing pen with
  | nil => exact List.forall_mem_nil _
  | cons i is ih =>
    obtain ⟨hi, his⟩ := List.forall_mem_cons.mp his
    have hstep : ∀ c ∈ (pen.step i).2, c.BeginsAt q := step_beginsAt h hi q
    rw [← pen.step_scale hi] at h
    exact List.forall_mem_append.mpr ⟨hstep, ih h his⟩

/-! ## A pen that was not put down yet -/

/-- The first command of a pen that was not put down yet is a move. -/
theorem run_begins {α : Type} [Scalar α] {pen : Pen α} (hpos : pen.position = none)
    {is : List (Instruction α)} (his : ∀ i ∈ is, i.isDirect = true) :
    (pen.run is).2 = [] ∨ ∃ p rest, (pen.run is).2 = .moveTo p :: rest := by
  induction is with
  | nil => exact .inl rfl
  | cons i is ih =>
    obtain ⟨hi, hrest⟩ := List.forall_mem_cons.mp his
    have hready : pen.ready = (pen.movedTo Point.origin, Point.origin,
        [.moveTo (pen.toBox Point.origin)]) := by
      rw [ready, hpos]
    cases i with
    | moveTo x y => exact .inr ⟨_, _, rfl⟩
    | lineTo x y =>
      right
      rw [run, step, line, hready]
      exact ⟨_, _, rfl⟩
    | cubicTo x1 y1 x2 y2 x y =>
      right
      rw [run, step, cubic, hready]
      exact ⟨_, _, rfl⟩
    | quadTo qx qy x y =>
      right
      rw [run, step, quadratic, hready]
      exact ⟨_, _, rfl⟩
    | arcTo wr hr start sweep =>
      right
      rw [run, step, ellipticalArc, hready]
      dsimp only
      split <;> exact ⟨_, _, rfl⟩
    | arc spec wedge => cases hi
    | append fragment => cases hi
    | close =>
      -- nothing is closed while the pen is up
      have hclosed : pen.step .close = (pen, []) := by
        rw [step, closed, hpos]
      rw [run, hclosed]
      exact ih hrest

/-- What instructions leave behind can be drawn where the pen is, whatever its local space is. -/
theorem run_continues {pen : Pen ℝ} {t : Trail ℝ} (hpos : t.pen = pen.position.map pen.toBox)
    (hstart : t.start = pen.subpathStart.map pen.toBox) {is : List (Instruction ℝ)}
    (his : ∀ i ∈ is, i.isDirect = true) : t.Continues (pen.run is).2 := by
  by_cases hscale : 0 < pen.scale.x ∧ 0 < pen.scale.y
  · have htracks : pen.Tracks t := ⟨hscale.1, hscale.2, hpos, hstart⟩
    exact (run_leads htracks his).continues
  · -- there are no arcs then
    exact Trail.continues_of_arcless t fun c hc q => run_beginsAt hscale his q c hc

/-- The path of a pen that was not put down yet, from instructions that it draws itself. -/
theorem draw_penContinuous {pen : Pen ℝ} (hpos : pen.position = none)
    (hstart : pen.subpathStart = none) {is : List (Instruction ℝ)}
    (his : ∀ i ∈ is, i.isDirect = true) : (pen.draw is).PenContinuous := by
  refine (Path.penContinuous_iff _).mpr ⟨run_begins hpos his, run_continues ?_ ?_ his⟩
  · rw [hpos]
    rfl
  · rw [hstart]
    rfl

/-- The path of any pen, from a move and instructions that it draws itself. -/
theorem draw_moveTo_penContinuous (pen : Pen ℝ) (x y : ℝ) {is : List (Instruction ℝ)}
    (his : ∀ i ∈ is, i.isDirect = true) : (pen.draw (.moveTo x y :: is)).PenContinuous := by
  refine (Path.penContinuous_iff _).mpr ⟨.inr ⟨_, _, rfl⟩, trivial, ?_⟩
  show Trail.Continues _ ((pen.movedTo ⟨x, y⟩).run is).2
  exact run_continues rfl rfl his

end Pen

end ShapeOutline
