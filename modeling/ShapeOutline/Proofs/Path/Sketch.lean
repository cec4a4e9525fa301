import Mathlib
import ShapeOutline.Path.Transform
import ShapeOutline.Pen

/-!
# Sketches

The sketch of a drawing says what the pen does and not where: it moves, it draws, it closes. Lines
and curves that follow each other are drawn as one, so that a corner may be rounded or not without
changing the sketch.

* `Gesture`, `Sketch`: the data;
* `Path.sketch`: the sketch of a path;
* `Instruction.sketch?`: the sketch that instructions foretell, if the pen draws them itself;
* `Pen.sketch_draw`: what they foretell is what is drawn.
-/

namespace ShapeOutline

/-- What the pen does. -/
inductive Gesture where
  | move
  | draw
  | close
deriving DecidableEq

/-- What the pen does one after the other. -/
abbrev Sketch := List Gesture

/-- A sketch with one more gesture in front; two drawings in a row are one. -/
def Gesture.before : Gesture → Sketch → Sketch
  | .draw, .draw :: rest => .draw :: rest
  | g, rest => g :: rest

theorem Gesture.draw_before_draw (rest : Sketch) :
    Gesture.draw.before (Gesture.draw.before rest) = Gesture.draw.before rest := by
  rcases rest with _ | ⟨_ | _ | _, rest⟩ <;> rfl

namespace Sketch

/-- A subpath that is closed. -/
def closed : Sketch := [.move, .draw, .close]

/-- A subpath that is left open. -/
def opened : Sketch := [.move, .draw]

/-- Some closed subpaths, and behind them some that are left open. -/
def figures (closedCount openCount : ℕ) : Sketch :=
  (List.replicate closedCount closed).flatten ++ (List.replicate openCount opened).flatten

end Sketch

variable {α : Type}

/-- What the pen does for a command. -/
def Command.gesture : Command α → Gesture
  | .moveTo _ => .move
  | .close => .close
  | _ => .draw

/-- The sketch of some commands in front of a sketch. -/
def Command.sketchBefore (cs : List (Command α)) (rest : Sketch) : Sketch :=
  cs.foldr (fun c s => c.gesture.before s) rest

/-- The sketch of a path. -/
def Path.sketch (p : Path α) : Sketch := Command.sketchBefore p.commands []

namespace Instruction

/-- What the pen does for an instruction that it draws itself. -/
def gesture? : Instruction α → Option Gesture
  | .moveTo _ _ => some .move
  | .close => some .close
  | .arc _ _ => none
  | .append _ => none
  | _ => some .draw

/-- Whether the pen draws the instruction itself and takes over no fragment. -/
def isDirect (i : Instruction α) : Bool := i.gesture?.isSome

/-- The sketch of some instructions in front of a sketch, if the pen draws all of them itself. -/
def sketchBefore? : List (Instruction α) → Sketch → Option Sketch
  | [], rest => some rest
  | i :: is, rest => i.gesture?.bind fun g => (sketchBefore? is rest).map g.before

/-- The sketch of some instructions, if the pen draws all of them itself. -/
def sketch? (is : List (Instruction α)) : Option Sketch := sketchBefore? is []

theorem isDirect_of_sketchBefore? {is : List (Instruction α)} {rest s : Sketch}
    (hs : sketchBefore? is rest = some s) : ∀ i ∈ is, i.isDirect = true := by
  induction is generalizing s with
  | nil => exact List.forall_mem_nil _
  | cons i is ih =>
    obtain ⟨g, hg, hs⟩ := Option.bind_eq_some_iff.mp hs
    obtain ⟨s', hs', -⟩ := Option.map_eq_some_iff.mp hs
    exact List.forall_mem_cons.mpr ⟨Option.isSome_of_eq_some hg, ih hs'⟩

/-- Instructions that foretell a move first begin with one. -/
theorem eq_moveTo_of_sketch? {is : List (Instruction α)} {s : Sketch}
    (hs : sketch? is = some (.move :: s)) :
    ∃ x y rest, is = .moveTo x y :: rest ∧ sketch? rest = some s := by
  cases is with
  | nil => cases hs
  | cons i is =>
    obtain ⟨g, hg, hs⟩ := Option.bind_eq_some_iff.mp hs
    obtain ⟨s', hs', hcons⟩ := Option.map_eq_some_iff.mp hs
    cases i with
    | moveTo x y =>
      cases hg
      obtain rfl : s' = s := List.tail_eq_of_cons_eq hcons
      exact ⟨x, y, is, rfl, hs'⟩
    | arc spec wedge => cases hg
    | append fragment => cases hg
    | close =>
      cases hg
      cases hcons
    | _ =>
      -- a sketch that begins with a drawing does not begin with a move
      cases hg
      rcases s' with _ | ⟨_ | _ | _, s'⟩ <;> cases hcons

theorem sketchBefore?_append (is js : List (Instruction α)) (rest : Sketch) :
    sketchBefore? (is ++ js) rest = (sketchBefore? js rest).bind (sketchBefore? is) := by
  induction is with
  | nil => exact (Option.bind_fun_some _).symm
  | cons i is ih =>
    rw [List.cons_append, sketchBefore?, ih]
    cases sketchBefore? js rest with
    | none => cases i.gesture? <;> rfl
    | some s => rfl

/-- Two instructions that draw are drawn as one, whichever of them it is. -/
theorem sketchBefore?_draw_draw {i j : Instruction α} (hi : i.gesture? = some .draw)
    (hj : j.gesture? = some .draw) (is : List (Instruction α)) (rest : Sketch) :
    sketchBefore? (i :: j :: is) rest = sketchBefore? (j :: is) rest ∧
      sketchBefore? (i :: j :: is) rest = sketchBefore? (i :: is) rest := by
  have hboth : sketchBefore? (i :: j :: is) rest
      = (sketchBefore? is rest).map Gesture.draw.before := by
    rw [sketchBefore?, hi, sketchBefore?, hj]
    show ((sketchBefore? is rest).map Gesture.draw.before).map _ = _
    cases sketchBefore? is rest with
    | none => rfl
    | some s => exact congrArg some (Gesture.draw_before_draw s)
  constructor
  · rw [hboth, sketchBefore?, hj]
    rfl
  · rw [hboth, sketchBefore?, hi]
    rfl

/-- Lines that follow each other are drawn as one. -/
theorem sketchBefore?_lines (p : α × α) (ps : List (α × α)) (rest : Sketch) :
    sketchBefore? ((p :: ps).map fun p => .lineTo p.1 p.2) rest
      = some (Gesture.draw.before rest) := by
  induction ps generalizing p with
  | nil => rfl
  | cons q ps ih =>
    rw [List.map_cons, sketchBefore?, ih q]
    exact congrArg some (Gesture.draw_before_draw rest)

theorem sketchBefore?_polyline (p q : α × α) (ps : List (α × α)) (rest : Sketch) :
    sketchBefore? (polyline (p :: q :: ps)) rest
      = some (.move :: Gesture.draw.before rest) := by
  rw [polyline, sketchBefore?, sketchBefore?_lines]
  rfl

/-- A polygon with several corners is a closed subpath. -/
theorem sketchBefore?_polygon (p q : α × α) (ps : List (α × α)) (rest : Sketch) :
    sketchBefore? (polygon (p :: q :: ps)) rest = some (Sketch.closed ++ rest) := by
  rw [polygon, sketchBefore?_append]
  · exact sketchBefore?_polyline p q ps (.close :: rest)
  · exact List.cons_ne_nil _ _

end Instruction

/-! ## What is foretold is drawn -/

namespace Pen

variable [Scalar α] {pen : Pen α}

/-- The pen is on the paper, in a subpath. -/
structure IsDown (pen : Pen α) : Prop where
  position : pen.position.isSome = true
  subpathStart : pen.subpathStart.isSome = true

omit [Scalar α] in
theorem isDown_movedTo (pen : Pen α) (p : Point α) : (pen.movedTo p).IsDown := ⟨rfl, rfl⟩

namespace IsDown

theorem ready_eq (h : pen.IsDown) : ∃ p, pen.ready = (pen, p, []) := by
  obtain ⟨p, hp⟩ := Option.isSome_iff_exists.mp h.position
  exact ⟨p, by rw [ready, hp]⟩

omit [Scalar α] in
theorem drawnTo (h : pen.IsDown) (p : Point α) : (pen.drawnTo p).IsDown := ⟨rfl, h.subpathStart⟩

/-- An instruction leaves the gesture that it foretells, and the pen on the paper. -/
theorem step (h : pen.IsDown) {i : Instruction α} {g : Gesture} (hg : i.gesture? = some g)
    (rest : Sketch) :
    Command.sketchBefore (pen.step i).2 rest = g.before rest ∧ (pen.step i).1.IsDown := by
  obtain ⟨p, hready⟩ := h.ready_eq
  cases i with
  | moveTo x y =>
    cases hg
    exact ⟨rfl, pen.isDown_movedTo _⟩
  | lineTo x y =>
    cases hg
    rw [Pen.step, line, hready]
    exact ⟨rfl, h.drawnTo _⟩
  | cubicTo x1 y1 x2 y2 x y =>
    cases hg
    rw [Pen.step, cubic, hready]
    exact ⟨rfl, h.drawnTo _⟩
  | quadTo qx qy x y =>
    cases hg
    rw [Pen.step, quadratic, hready]
    dsimp only
    rw [cubic, hready]
    exact ⟨rfl, h.drawnTo _⟩
  | arcTo wr hr start sweep =>
    cases hg
    rw [Pen.step, ellipticalArc, hready]
    dsimp only
    split
    · -- a degenerate arc is drawn as a line
      refine ⟨?_, h.drawnTo _⟩
      rw [Command.ofArc]
      split <;> rfl
    · rw [line, hready]
      exact ⟨rfl, h.drawnTo _⟩
  | arc spec wedge => cases hg
  | append fragment => cases hg
  | close =>
    cases hg
    obtain ⟨q, hq⟩ := Option.isSome_iff_exists.mp h.position
    rw [Pen.step, closed, hq]
    exact ⟨rfl, h.subpathStart, h.subpathStart⟩

/-- Instructions leave the sketch that they foretell. -/
theorem run (h : pen.IsDown) {is : List (Instruction α)} {rest s : Sketch}
    (hs : Instruction.sketchBefore? is rest = some s) :
    Command.sketchBefore (pen.run is).2 rest = s := by
  induction is generalizing pen s with
  | nil => exact Option.some.inj hs
  | cons i is ih =>
    obtain ⟨g, hg, hs⟩ := Option.bind_eq_some_iff.mp hs
    obtain ⟨s', hs', rfl⟩ := Option.map_eq_some_iff.mp hs
    -- the rest of the sketch is what stands behind the first instruction
    have hstep := (h.step hg s').1
    have hrest := ih (h.step hg s').2 hs'
    show Command.sketchBefore ((pen.step i).2 ++ ((pen.step i).1.run is).2) rest = _
    rw [Command.sketchBefore, List.foldr_append]
    show Command.sketchBefore _ (Command.sketchBefore _ rest) = _
    rw [hrest, hstep]

end IsDown

/-- Instructions that begin with a move leave the sketch that they foretell, wherever the pen is. -/
theorem sketch_draw (pen : Pen α) {is : List (Instruction α)} {s : Sketch}
    (hs : Instruction.sketch? is = some (.move :: s)) : (pen.draw is).sketch = .move :: s := by
  obtain ⟨x, y, rest, rfl, hrest⟩ := Instruction.eq_moveTo_of_sketch? hs
  have hrun := (pen.isDown_movedTo ⟨x, y⟩).run hrest
  show Gesture.move.before (Command.sketchBefore ((pen.movedTo ⟨x, y⟩).run rest).2 []) = _
  rw [hrun]
  rfl

end Pen

end ShapeOutline
