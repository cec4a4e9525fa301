import Mathlib
import ShapeOutline.Proofs.Path.Drawable

/-!
# Subpaths of a sketch

How many subpaths a path has, whether one of them is left open and whether anything is closed can be
read off its sketch: drawings that are taken together leave each of these as it is.

* `Sketch.leavesOpen`: some gestures leave a subpath open;
* `Path.subpathCount_eq`, `Path.hasOpenSubpath_eq`, `Path.close_mem_iff`: what the sketch says of the
  path;
* `Path.subpathCount_flipped`, `Path.hasOpenSubpath_flipped`: a flip changes none of it;
* `Path.Drawable.exists_moveTo`: the paths of formulas begin with a move;
* `Path.commands_of_sketch_closed`: the commands of one closed subpath.
-/

namespace ShapeOutline

variable {α : Type}

/-! ## Reading a sketch -/

/-- Whether gestures leave some subpath open, given whether one is open before them. -/
def Sketch.leavesOpen : Bool → Sketch → Bool
  | opened, [] => opened
  | opened, .move :: rest => opened || leavesOpen false rest
  | _, .close :: rest => leavesOpen false rest
  | _, .draw :: rest => leavesOpen true rest

namespace Gesture

variable (g : Gesture) (s : Sketch)

theorem head?_before : (g.before s).head? = some g := by
  rcases s with _ | ⟨_ | _ | _, s⟩ <;> cases g <;> rfl

theorem count_move_before : (g.before s).count .move = (g :: s).count .move := by
  rcases s with _ | ⟨_ | _ | _, s⟩ <;> cases g <;> rfl

theorem leavesOpen_before (opened : Bool) :
    Sketch.leavesOpen opened (g.before s) = Sketch.leavesOpen opened (g :: s) := by
  rcases s with _ | ⟨_ | _ | _, s⟩ <;> cases g <;> rfl

theorem close_mem_before : .close ∈ g.before s ↔ .close ∈ g :: s := by
  rcases s with _ | ⟨_ | _ | _, s⟩ <;> cases g <;> simp [before]

/-- Behind the first gesture is the rest of the sketch, unless two drawings are one. -/
theorem eq_of_before_eq_cons {g g' : Gesture} {s t : Sketch} (h : g.before s = g' :: t) :
    g = g' ∧ (s = t ∨ g = .draw ∧ s = .draw :: t) := by
  rcases s with _ | ⟨_ | _ | _, s⟩ <;> cases g <;> cases h <;> simp

end Gesture

/-! ## Reading commands -/

namespace Command

theorem count_move_sketchBefore (cs : List (Command α)) :
    (sketchBefore cs []).count .move = cs.countP isMove := by
  induction cs with
  | nil => rfl
  | cons c cs ih =>
    show (c.gesture.before (sketchBefore cs [])).count .move = _
    rw [Gesture.count_move_before, List.count_cons, ih, List.countP_cons]
    cases c <;> rfl

theorem leavesOpen_sketchBefore (cs : List (Command α)) (opened : Bool) :
    Sketch.leavesOpen opened (sketchBefore cs []) = Path.leavesOpen opened cs := by
  induction cs generalizing opened with
  | nil => rfl
  | cons c cs ih =>
    show Sketch.leavesOpen opened (c.gesture.before (sketchBefore cs [])) = _
    rw [Gesture.leavesOpen_before]
    cases c <;> simp only [gesture, Sketch.leavesOpen, Path.leavesOpen, ih]

theorem close_mem_sketchBefore (cs : List (Command α)) :
    Gesture.close ∈ sketchBefore cs [] ↔ Command.close ∈ cs := by
  induction cs with
  | nil => exact iff_of_false List.not_mem_nil List.not_mem_nil
  | cons c cs ih =>
    show Gesture.close ∈ c.gesture.before (sketchBefore cs []) ↔ _
    rw [Gesture.close_mem_before, List.mem_cons, List.mem_cons, ih]
    cases c <;> simp [gesture]

/-- A sketch that begins with a move is that of commands that begin with one. -/
theorem eq_moveTo_of_sketchBefore {cs : List (Command α)} {s : Sketch}
    (hs : sketchBefore cs [] = .move :: s) : ∃ q rest, cs = .moveTo q :: rest := by
  cases cs with
  | nil => cases hs
  | cons c cs =>
    have hhead := c.gesture.head?_before (sketchBefore cs [])
    have hgesture : Gesture.move = c.gesture :=
      Option.some.inj ((congrArg List.head? hs).symm.trans hhead)
    cases c with
    | moveTo q => exact ⟨q, cs, rfl⟩
    | _ => cases hgesture

theorem eq_nil_of_sketchBefore {cs : List (Command α)} (hs : sketchBefore cs [] = []) : cs = [] := by
  cases cs with
  | nil => rfl
  | cons c cs =>
    have hhead : (sketchBefore (c :: cs) []).head? = some c.gesture := c.gesture.head?_before _
    rw [hs] at hhead
    cases hhead

/-- Commands that draw first draw until the sketch goes on. -/
theorem split_of_sketchBefore_draw {cs : List (Command α)} {s : Sketch}
    (hs : sketchBefore cs [] = .draw :: s) :
    ∃ drawn rest, cs = drawn ++ rest ∧ (∀ c ∈ drawn, c.gesture = .draw) ∧
      sketchBefore rest [] = s := by
  induction cs with
  | nil => cases hs
  | cons c cs ih =>
    obtain ⟨hc, hrest | ⟨-, hdraw⟩⟩ := Gesture.eq_of_before_eq_cons hs
    · exact ⟨[c], cs, rfl, List.forall_mem_singleton.mpr hc, hrest⟩
    · obtain ⟨drawn, rest, rfl, hdrawn, hrest⟩ := ih hdraw
      exact ⟨c :: drawn, rest, rfl, List.forall_mem_cons.mpr ⟨hc, hdrawn⟩, hrest⟩

end Command

/-! ## Paths -/

namespace Path

variable (p : Path α)

theorem subpathCount_eq : p.subpathCount = p.sketch.count .move :=
  (Command.count_move_sketchBefore p.commands).symm

theorem hasOpenSubpath_eq : p.hasOpenSubpath = Sketch.leavesOpen false p.sketch :=
  (Command.leavesOpen_sketchBefore p.commands false).symm

theorem close_mem_iff : .close ∈ p.commands ↔ .close ∈ p.sketch :=
  (Command.close_mem_sketchBefore p.commands).symm

section

variable [Scalar α] (w h : α) (horizontally vertically : Bool)

theorem subpathCount_flipped :
    (p.flipped w h horizontally vertically).subpathCount = p.subpathCount := by
  rw [subpathCount_eq, sketch_flipped, ← subpathCount_eq]

theorem hasOpenSubpath_flipped :
    (p.flipped w h horizontally vertically).hasOpenSubpath = p.hasOpenSubpath := by
  rw [hasOpenSubpath_eq, sketch_flipped, ← hasOpenSubpath_eq]

/-- A flipped path begins with a move if the path does. -/
theorem begins_flipped {p : Path α}
    (hp : p.commands = [] ∨ ∃ q rest, p.commands = .moveTo q :: rest) :
    (p.flipped w h horizontally vertically).commands = [] ∨
      ∃ q rest, (p.flipped w h horizontally vertically).commands = .moveTo q :: rest := by
  unfold flipped
  split
  · exact hp
  · rcases hp with hnil | ⟨q, rest, hmove⟩
    · left
      rw [mapped, hnil]
      rfl
    · right
      rw [mapped, hmove]
      exact ⟨_, _, rfl⟩

end

/-- The paths of formulas begin with a move. -/
theorem Drawable.exists_moveTo [Scalar α] {p : Path α} {s : Sketch} (h : p.Drawable s) :
    ∃ q rest, p.commands = .moveTo q :: rest := by
  obtain ⟨s', rfl⟩ := h.begins
  exact Command.eq_moveTo_of_sketchBefore h.sketch_eq

/-- One closed subpath is a move, commands that draw, and a close. -/
theorem commands_of_sketch_closed {p : Path α} (h : p.sketch = Sketch.closed) :
    ∃ q drawn, p.commands = .moveTo q :: drawn ++ [.close] ∧ ∀ c ∈ drawn, c.gesture = .draw := by
  obtain ⟨cs⟩ := p
  obtain ⟨q, cs, rfl⟩ := Command.eq_moveTo_of_sketchBefore h
  have hbehind : Command.sketchBefore cs [] = [.draw, .close] := List.tail_eq_of_cons_eq h
  obtain ⟨drawn, rest, rfl, hdrawn, hrest⟩ := Command.split_of_sketchBefore_draw hbehind
  cases rest with
  | nil => cases hrest
  | cons c rest =>
    obtain ⟨hc, hend | ⟨hdraw, -⟩⟩ := Gesture.eq_of_before_eq_cons hrest
    · obtain rfl := Command.eq_nil_of_sketchBefore hend
      cases c with
      | close => exact ⟨q, drawn, rfl, hdrawn⟩
      | _ => cases hc
    · rw [hdraw] at hc
      cases hc

end Path

end ShapeOutline
