import Mathlib
import ShapeOutline.Path.Text
import ShapeOutline.Proofs.Path.Mirror

/-!
# One flip after another

Two flips of a path inside one box are together a flip of the axes that exactly one of them flips, but
for the angles of arcs: where the first flip turns the path upside down and the second one exchanges left
and right, the angles end up a full turn apart from those of the single flip. No point of an arc depends
on full turns, and neither does the text of a path, which names sweeps and end points.

* `Arc.advanced`, `Command.advanced`: the same arc with its angles some full turns further on;
* `Arc.pieceChars_advanced`, `Command.chars_advanced`, `Path.text_map`: texts do not show full turns;
* `extraTurns`, `Arc.reflectAngle_reflectAngle`: the turns that two flips leave over;
* `Path.flips_compose`: two flips and the single one.
-/

namespace ShapeOutline

open Point (signs corner)

/-! ## Full turns -/

/-- Full turns change neither sine nor cosine. -/
theorem sinCos_add_turns (deg : ℝ) (k : ℤ) : sinCos (deg + 360 * k) = sinCos deg := by
  have hangle : (deg + 360 * k) * (Real.pi / 180)
      = deg * (Real.pi / 180) + k * (2 * Real.pi) := by ring
  rw [sinCos_eq, sinCos_eq, hangle, Real.sin_add_int_mul_two_pi, Real.cos_add_int_mul_two_pi]

/-- The same arc with both angles some full turns further on. -/
noncomputable def Arc.advanced (k : ℤ) (a : Arc ℝ) : Arc ℝ :=
  { a with start := a.start + 360 * k, stop := a.stop + 360 * k }

/-- A piece of an arc with its end some full turns further on. -/
noncomputable def ArcPiece.advanced (k : ℤ) (s : ArcPiece ℝ) : ArcPiece ℝ :=
  { s with stop := s.stop + 360 * k }

/-- The same command, an arc with both angles some full turns further on. -/
noncomputable def Command.advanced (k : ℤ) : Command ℝ → Command ℝ
  | arcTo a => arcTo (a.advanced k)
  | c => c

namespace Arc

variable (k : ℤ) (a : Arc ℝ)

theorem pointAt_advanced (deg : ℝ) : (a.advanced k).pointAt (deg + 360 * k) = a.pointAt deg := by
  rw [pointAt_eq, pointAt_eq, sinCos_add_turns]
  rfl

/-- The arc is cut into pieces as before, each of which ends as many turns further on. -/
theorem pieces_advanced : (a.advanced k).pieces = a.pieces.map (ArcPiece.advanced k) := by
  have hsweep : a.stop + 360 * k - (a.start + 360 * k) = a.stop - a.start :=
    add_sub_add_right_eq_sub _ _ _
  have hmiddle (half : ℝ) : a.start + 360 * k + half = a.start + half + 360 * k :=
    add_right_comm _ _ _
  unfold pieces advanced
  dsimp only
  rw [hsweep, hmiddle]
  split_ifs <;> rfl

theorem pieceChars_advanced (s : ArcPiece ℝ) :
    (a.advanced k).pieceChars (s.advanced k) = a.pieceChars s := by
  have hpoint : (a.advanced k).pointAt (s.advanced k).stop = a.pointAt s.stop :=
    a.pointAt_advanced k s.stop
  rw [pieceChars, hpoint]
  rfl

end Arc

/-- The text of a command does not show full turns. -/
theorem Command.chars_advanced (k : ℤ) (c : Command ℝ) : (c.advanced k).chars = c.chars := by
  cases c with
  | arcTo a =>
    have hpieces : (a.advanced k).pieceChars ∘ ArcPiece.advanced k = a.pieceChars :=
      funext (a.pieceChars_advanced k)
    rw [advanced, chars, chars, a.pieces_advanced, List.map_map, hpieces]
  | _ => rfl

/-- A change of commands that keeps their texts keeps the text of a path. -/
theorem Path.text_map {α : Type} [Scalar α] {g : Command α → Command α}
    (h : ∀ c, (g c).chars = c.chars) (p : Path α) :
    (Path.mk (p.commands.map g)).text = p.text := by
  have hwrite (out : List Char) (c : Command α) : Command.write out (g c) = Command.write out c := by
    rw [Command.write, h c]
    rfl
  rw [text, text, chars, chars, List.foldl_map]
  simp only [hwrite]

/-! ## Angles and arcs after two flips -/

/-- The full turns by which the angles after two flips run ahead of those after the single one. There
are some when the first flip exchanges top and bottom and the second one left and right. -/
def extraTurns (vertically₁ horizontally₂ vertically₂ : Bool) : ℤ :=
  if vertically₁ && horizontally₂ then if vertically₂ then -1 else 1 else 0

variable (w h : ℝ) (a₁ b₁ a₂ b₂ : Bool)

theorem Point.flipped_flipped (p : Point ℝ) :
    (p.flipped w h a₁ b₁).flipped w h a₂ b₂ = p.flipped w h (a₁ ^^ a₂) (b₁ ^^ b₂) := by
  unfold flipped
  cases a₁ <;> cases b₁ <;> cases a₂ <;> cases b₂ <;> simp

namespace Arc

theorem reflectAngle_signs (f v : Bool) (deg : ℝ) :
    reflectAngle (signs f v) deg
      = if v then -(if f then 180 - deg else deg) else if f then 180 - deg else deg := by
  unfold reflectAngle
  rw [Exact.literal_zero, Exact.literal_eq]
  simp only [signs_x_neg_iff, signs_y_neg_iff]

/-- An angle that is reflected twice is reflected in the axes that exactly one of the two flips has, and
some full turns further on. -/
theorem reflectAngle_reflectAngle (deg : ℝ) :
    reflectAngle (signs a₂ b₂) (reflectAngle (signs a₁ b₁) deg)
      = reflectAngle (signs (a₁ ^^ a₂) (b₁ ^^ b₂)) deg + 360 * extraTurns b₁ a₂ b₂ := by
  rw [reflectAngle_signs, reflectAngle_signs, reflectAngle_signs, extraTurns]
  cases a₁ <;> cases b₁ <;> cases a₂ <;> cases b₂ <;> simp <;> ring

/-- A flip keeps the radii of an arc. -/
theorem mapped_signs (f v : Bool) (a : Arc ℝ) :
    a.mapped (signs f v) (corner w h f v)
      = ⟨a.center.flipped w h f v, a.rx, a.ry, reflectAngle (signs f v) a.start,
          reflectAngle (signs f v) a.stop⟩ := by
  have hx : a.rx * |(signs f v).x| = a.rx := by cases f <;> simp [signs]
  have hy : a.ry * |(signs f v).y| = a.ry := by cases v <;> simp [signs]
  rw [mapped, Point.map_signs]
  exact congrArg₂ (fun rx ry => Arc.mk _ rx ry _ _) hx hy

theorem mapped_mapped_signs (a : Arc ℝ) :
    (a.mapped (signs a₁ b₁) (corner w h a₁ b₁)).mapped (signs a₂ b₂) (corner w h a₂ b₂)
      = (a.mapped (signs (a₁ ^^ a₂) (b₁ ^^ b₂)) (corner w h (a₁ ^^ a₂) (b₁ ^^ b₂))).advanced
          (extraTurns b₁ a₂ b₂) := by
  simp only [mapped_signs, advanced, Point.flipped_flipped, reflectAngle_reflectAngle]

end Arc

/-! ## Commands and paths after two flips -/

/-- A command that is flipped twice is the command of the single flip, an arc some full turns further
on. -/
theorem Command.mapped_mapped_signs (c : Command ℝ) :
    (c.mapped (signs a₁ b₁) (corner w h a₁ b₁)).mapped (signs a₂ b₂) (corner w h a₂ b₂)
      = (c.mapped (signs (a₁ ^^ a₂) (b₁ ^^ b₂)) (corner w h (a₁ ^^ a₂) (b₁ ^^ b₂))).advanced
          (extraTurns b₁ a₂ b₂) := by
  cases c with
  | arcTo a => exact congrArg arcTo (a.mapped_mapped_signs w h a₁ b₁ a₂ b₂)
  | _ => simp only [mapped, advanced, Point.map_signs, Point.flipped_flipped]

namespace Path

variable (p : Path ℝ)

theorem flipped_flipped_commands :
    ((p.flipped w h a₁ b₁).flipped w h a₂ b₂).commands
      = (p.flipped w h (a₁ ^^ a₂) (b₁ ^^ b₂)).commands.map
          (Command.advanced (extraTurns b₁ a₂ b₂)) := by
  rw [flipped_commands, flipped_commands, flipped_commands, List.map_map, List.map_map]
  exact congrArg (fun g => p.commands.map g)
    (funext (Command.mapped_mapped_signs w h a₁ b₁ a₂ b₂))

theorem flipped_flipped_text :
    ((p.flipped w h a₁ b₁).flipped w h a₂ b₂).text
      = (p.flipped w h (a₁ ^^ a₂) (b₁ ^^ b₂)).text := by
  have htext := text_map (Command.chars_advanced (extraTurns b₁ a₂ b₂))
    (p.flipped w h (a₁ ^^ a₂) (b₁ ^^ b₂))
  rw [← flipped_flipped_commands] at htext
  exact htext

/-- Two flips inside one box are a flip of the axes that exactly one of them flips: they leave the same
commands, save that the angles of all arcs may have run ahead by one and the same number of full turns.
So they leave the same text, and a flip that is made twice gives back the text of the path. -/
theorem flips_compose :
    ((p.flipped w h a₁ b₁).flipped w h a₂ b₂).commands
        = (p.flipped w h (a₁ ^^ a₂) (b₁ ^^ b₂)).commands.map
            (Command.advanced (extraTurns b₁ a₂ b₂)) ∧
      ((p.flipped w h a₁ b₁).flipped w h a₂ b₂).text
        = (p.flipped w h (a₁ ^^ a₂) (b₁ ^^ b₂)).text ∧
      ((p.flipped w h a₁ b₁).flipped w h a₁ b₁).text = p.text := by
  refine ⟨p.flipped_flipped_commands w h a₁ b₁ a₂ b₂, p.flipped_flipped_text w h a₁ b₁ a₂ b₂, ?_⟩
  -- nothing is left of a flip with itself
  rw [flipped_flipped_text, Bool.xor_self, Bool.xor_self]
  rfl

end Path

end ShapeOutline
