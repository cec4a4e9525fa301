import Mathlib
import ShapeOutline.Proofs.Path.Sketch
import ShapeOutline.Proofs.Pen.Track

/-!
# How formulas draw

Formulas put their paths together in few ways: they draw instructions in the box or in a space of
their own, put further instructions behind a path, exchange the axes, flip, and draw one path after
another. Everything that is kept by these is so of every outline.

* `Path.Drawable`: the paths put together in these ways, with their sketches;
* `Drawable.sketch_eq`: the sketch is that of the path;
* `Drawable.penContinuous`: the pen never jumps.
-/

namespace ShapeOutline

variable {α : Type} [Scalar α]

/-! ## Sketches of paths put together -/

namespace Gesture

/-- A move is not drawn as one with what stands before it. -/
theorem before_append_move (g : Gesture) (r s : Sketch) :
    g.before (r ++ .move :: s) = g.before r ++ .move :: s := by
  rcases r with _ | ⟨_ | _ | _, r⟩ <;> cases g <;> rfl

end Gesture

namespace Command

omit [Scalar α] in
theorem sketchBefore_move (cs : List (Command α)) (s : Sketch) :
    sketchBefore cs (.move :: s) = sketchBefore cs [] ++ .move :: s := by
  induction cs with
  | nil => rfl
  | cons c cs ih =>
    show c.gesture.before (sketchBefore cs (.move :: s)) = _
    rw [ih, Gesture.before_append_move]
    rfl

omit [Scalar α] in
/-- A change of commands that keeps what the pen does keeps the sketch. -/
theorem sketchBefore_map {g : Command α → Command α} (hg : ∀ c, (g c).gesture = c.gesture)
    (cs : List (Command α)) (s : Sketch) : sketchBefore (cs.map g) s = sketchBefore cs s := by
  induction cs with
  | nil => rfl
  | cons c cs ih =>
    show (g c).gesture.before (sketchBefore (cs.map g) s) = _
    rw [ih, hg]
    rfl

theorem gesture_mapped (scale offset : Point α) (c : Command α) :
    (c.mapped scale offset).gesture = c.gesture := by
  cases c <;> rfl

theorem gesture_transposed (c : Command α) : c.transposed.gesture = c.gesture := by
  cases c <;> rfl

end Command

/-- Instructions that begin with a move keep the pen from jumping, wherever it was. -/
theorem Pen.draw_sketched_penContinuous (pen : Pen ℝ) {is : List (Instruction ℝ)} {s : Sketch}
    (hs : Instruction.sketch? is = some (.move :: s)) : (pen.draw is).PenContinuous := by
  obtain ⟨x, y, rest, rfl, hrest⟩ := Instruction.eq_moveTo_of_sketch? hs
  exact pen.draw_moveTo_penContinuous x y (Instruction.isDirect_of_sketchBefore? hrest)

namespace Path

omit [Scalar α] in
/-- A path whose sketch begins with a move is sketched by itself behind another. -/
theorem sketch_append {p q : Path α} {s : Sketch} (hq : q.sketch = .move :: s) :
    (p ++ q).sketch = p.sketch ++ .move :: s := by
  show Command.sketchBefore (p.commands ++ q.commands) [] = _
  rw [Command.sketchBefore, List.foldr_append]
  show Command.sketchBefore _ q.sketch = _
  rw [hq, Command.sketchBefore_move]
  rfl

theorem sketch_transposed (p : Path α) : p.transposed.sketch = p.sketch :=
  Command.sketchBefore_map Command.gesture_transposed p.commands []

theorem sketch_flipped (p : Path α) (w h : α) (horizontally vertically : Bool) :
    (p.flipped w h horizontally vertically).sketch = p.sketch := by
  unfold flipped
  split
  · rfl
  · exact Command.sketchBefore_map (Command.gesture_mapped _ _) p.commands []

/-! ## Drawable paths -/

/-- The paths that formulas put together, with their sketches. -/
inductive Drawable : Path α → Sketch → Prop where
  | drawn {is : List (Instruction α)} {s : Sketch} :
    Instruction.sketch? is = some (.move :: s) → Drawable (.drawn is) (.move :: s)
  | drawnIn {targetW targetH localW localH : α} {is : List (Instruction α)} {s : Sketch} :
    Instruction.sketch? is = some (.move :: s) →
      Drawable (.drawnIn targetW targetH localW localH is) (.move :: s)
  | onto {p : Path α} {r : Sketch} {is : List (Instruction α)} {s t : Sketch} :
    Drawable p r → Instruction.sketch? is = some (.move :: s) → r ++ .move :: s = t →
      Drawable (.drawn (.append p :: is)) t
  | transposed {p : Path α} {s : Sketch} : Drawable p s → Drawable p.transposed s
  | flipped {p : Path α} {s : Sketch} {w h : α} {horizontally vertically : Bool} :
    Drawable p s → Drawable (p.flipped w h horizontally vertically) s
  | append {p q : Path α} {r s t : Sketch} :
    Drawable p r → Drawable q s → r ++ s = t → Drawable (p ++ q) t

/-- A fragment that the pen takes over first comes before what it draws by itself then. -/
theorem drawn_append (p : Path α) (is : List (Instruction α)) :
    ∃ pen : Pen α, drawn (.append p :: is) = p ++ pen.draw is := ⟨_, rfl⟩

namespace Drawable

variable {p : Path α} {s : Sketch}

theorem begins (h : p.Drawable s) : ∃ s', s = .move :: s' := by
  induction h with
  | drawn _ => exact ⟨_, rfl⟩
  | drawnIn _ => exact ⟨_, rfl⟩
  | onto _ _ ht ih =>
    obtain ⟨s', rfl⟩ := ih
    exact ⟨_, ht.symm⟩
  | transposed _ ih => exact ih
  | flipped _ ih => exact ih
  | append _ _ ht ih _ =>
    obtain ⟨s', rfl⟩ := ih
    exact ⟨_, ht.symm⟩

/-- The sketch with which a path was put together is that of the path. -/
theorem sketch_eq (h : p.Drawable s) : p.sketch = s := by
  induction h with
  | drawn hs => exact Pen.sketch_draw _ hs
  | drawnIn hs => exact Pen.sketch_draw _ hs
  | @onto p _ is _ _ _ hs ht ih =>
    obtain ⟨pen, hpen⟩ := drawn_append p is
    rw [hpen, sketch_append (pen.sketch_draw hs), ih, ht]
  | @transposed p _ _ ih => rw [p.sketch_transposed, ih]
  | @flipped p _ w h a b _ ih => rw [p.sketch_flipped, ih]
  | append _ hq ht ihp ihq =>
    -- drawings on both sides of the seam would be one
    obtain ⟨s', rfl⟩ := hq.begins
    rw [sketch_append ihq, ihp, ht]

/-- The pen never jumps in a path that is put together in these ways. -/
theorem penContinuous {p : Path ℝ} (h : p.Drawable s) : p.PenContinuous := by
  induction h with
  | drawn hs => exact Pen.draw_sketched_penContinuous _ hs
  | drawnIn hs => exact Pen.draw_sketched_penContinuous _ hs
  | @onto p _ is _ _ _ hs _ ih =>
    obtain ⟨pen, hpen⟩ := drawn_append p is
    rw [hpen]
    exact ih.append (pen.draw_sketched_penContinuous hs)
  | transposed _ ih => exact ih.transposed
  | flipped _ ih => exact ih.flipped _ _ _ _
  | append _ _ _ ihp ihq => exact ihp.append ihq

end Drawable

end Path

end ShapeOutline
