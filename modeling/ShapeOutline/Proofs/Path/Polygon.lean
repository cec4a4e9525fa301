import Mathlib
import ShapeOutline.Proofs.Path.Spans

/-!
# Closed polygons

Many outlines are closed polygons, drawn one after the other. Such an outline is known from the points of
each polygon, which a pen leaves as it is told. A polygon is a cycle: it may begin at any of its points, and
travelled backwards it turns the other way round.

* `Command.around`, `Path.cycles`: the path along some closed polygons;
* `Pen.run_figures`: what a pen leaves of figures that are drawn one after the other;
* `Path.drawn_polygons`, `Path.polygon_eq_cycles`, `Path.cycles_transposed`: outlines of this kind;
* `RunsAgainst`: a cycle that is travelled backwards;
* `signedArea`, `RunsAgainst.signedArea_eq`: the area of a polygon with the sense in which it turns.
-/

namespace ShapeOutline

/-! ## Paths along polygons -/

section

variable {α : Type}

/-- The commands that lead along straight lines through some points, back to the first one. -/
def Command.around : List (Point α) → List (Command α)
  | [] => []
  | p :: ps => .moveTo p :: ps.map .lineTo ++ [.close]

/-- The path along some closed polygons, one after the other. -/
def Path.cycles (figures : List (List (Point α))) : Path α := ⟨figures.flatMap Command.around⟩

/-- The points of the box that pairs of coordinates name. -/
def Point.ofPairs (coordinates : List (α × α)) : List (Point α) := coordinates.map fun q => ⟨q.1, q.2⟩

end

namespace Pen

variable {pen : Pen ℝ}

/-- A pen in the box leaves a polygon with the points that it is told. -/
theorem run_polygon (hscale : pen.scale = ⟨1, 1⟩) (coordinates : List (ℝ × ℝ)) :
    (pen.run (Instruction.polygon coordinates)).2 = Command.around (Point.ofPairs coordinates) := by
  cases coordinates with
  | nil => rfl
  | cons p coordinates =>
    obtain ⟨last, hdown, -, hrun⟩ := run_append_eq (pen.isDown_movedTo ⟨p.1, p.2⟩) hscale
      (mapM_command?_lines coordinates) [.close]
    have hpoints : (Point.ofPairs coordinates).map Command.lineTo
        = coordinates.map fun q => .lineTo ⟨q.1, q.2⟩ := List.map_map
    obtain ⟨q, hq⟩ := Option.isSome_iff_exists.mp hdown.position
    have hclose : (last.run [.close]).2 = [.close] := by
      show (last.closed).2 ++ [] = _
      rw [closed, hq]
      rfl
    show .moveTo (pen.toBox ⟨p.1, p.2⟩) :: ((pen.movedTo ⟨p.1, p.2⟩).run
      (coordinates.map (fun q => .lineTo q.1 q.2) ++ [.close])).2 = _
    rw [hrun, hclose, toBox_of_scale_one hscale, ← hpoints]
    rfl

/-- Figures of one sort are left one after the other, when a pen in the box leaves each of them and stays in
the box. -/
theorem run_figures {β : Type} {figure : β → List (Instruction ℝ)} {commands : β → List (Command ℝ)}
    (hstays : ∀ (pen : Pen ℝ) b, (pen.run (figure b)).1.scale = pen.scale)
    (hleaves : ∀ {pen : Pen ℝ}, pen.scale = ⟨1, 1⟩ → ∀ b, (pen.run (figure b)).2 = commands b)
    (hscale : pen.scale = ⟨1, 1⟩) (bs : List β) :
    (pen.run (bs.flatMap figure)).2 = bs.flatMap commands := by
  induction bs generalizing pen with
  | nil => rfl
  | cons b bs ih =>
    have hbehind := (hstays pen b).trans hscale
    rw [List.flatMap_cons, List.flatMap_cons, run_concat, hleaves hscale, ih hbehind]

theorem run_polygons (hscale : pen.scale = ⟨1, 1⟩) (figures : List (List (ℝ × ℝ))) :
    (pen.run (figures.flatMap Instruction.polygon)).2
      = (Path.cycles (figures.map Point.ofPairs)).commands := by
  rw [Path.cycles, List.flatMap_map]
  exact run_figures run_polygon_scale run_polygon hscale figures

end Pen

namespace Path

theorem drawn_polygons (figures : List (List (ℝ × ℝ))) :
    Path.drawn (figures.flatMap Instruction.polygon) = cycles (figures.map Point.ofPairs) :=
  congrArg Path.mk (Pen.run_polygons Pen.plain_scale figures)

theorem polygon_eq_cycles (coordinates : List (ℝ × ℝ)) :
    Path.polygon coordinates = cycles [Point.ofPairs coordinates] := by
  have hdrawn := drawn_polygons [coordinates]
  rwa [List.flatMap_singleton] at hdrawn

theorem around_transposed {α : Type} [Scalar α] (ps : List (Point α)) :
    (Command.around ps).map Command.transposed = Command.around (ps.map Point.transpose) := by
  cases ps with
  | nil => rfl
  | cons p ps =>
    simp only [Command.around, List.map_cons, List.map_append, List.map_map, List.cons_append]
    rfl

theorem cycles_transposed {α : Type} [Scalar α] (figures : List (List (Point α))) :
    (cycles figures).transposed = cycles (figures.map (List.map Point.transpose)) := by
  rw [cycles, transposed, List.map_flatMap, cycles, List.flatMap_map]
  exact congrArg Path.mk (List.flatMap_congr fun ps _ => around_transposed ps)

end Path

/-! ## Cycles that are travelled backwards -/

/-- The cycle through `ps` is the one through `qs`, travelled backwards from the point with the number
`k`. -/
def RunsAgainst {β : Type} (k : ℕ) (ps qs : List β) : Prop :=
  k < qs.length ∧ ps = (qs.rotate (k + 1)).reverse

theorem RunsAgainst.map {β γ : Type} {k : ℕ} {ps qs : List β} (h : RunsAgainst k ps qs) (g : β → γ) :
    RunsAgainst k (ps.map g) (qs.map g) := by
  obtain ⟨hk, rfl⟩ := h
  exact ⟨by rwa [List.length_map], by rw [List.map_reverse, List.map_rotate]⟩

/-! ## The area of a polygon -/

/-- Twice the area of the triangle that two displacements span, positive when the second one is clockwise
from the first. -/
noncomputable def Point.cross (p q : Point ℝ) : ℝ := p.x * q.y - p.y * q.x

theorem Point.cross_swap (p q : Point ℝ) : q.cross p = -p.cross q := by
  show q.x * p.y - q.y * p.x = -(p.x * q.y - p.y * q.x)
  ring

/-- The area inside a polygon, positive when its points follow each other clockwise. -/
noncomputable def signedArea (ps : List (Point ℝ)) : ℝ :=
  (ps.zipWith Point.cross (ps.rotate 1)).sum / 2

theorem signedArea_rotate (ps : List (Point ℝ)) (n : ℕ) : signedArea (ps.rotate n) = signedArea ps := by
  have hcommute : (ps.rotate n).rotate 1 = (ps.rotate 1).rotate n := by
    rw [List.rotate_rotate, List.rotate_rotate, add_comm]
  rw [signedArea, hcommute, ← List.zipWith_rotate_distrib _ _ _ _ (List.length_rotate ps 1).symm,
    (List.rotate_perm _ n).sum_eq, signedArea]

theorem sum_zipWith_cross_swap (ps qs : List (Point ℝ)) :
    (qs.zipWith Point.cross ps).sum = -(ps.zipWith Point.cross qs).sum := by
  induction ps generalizing qs with
  | nil => simp
  | cons p ps ih =>
    cases qs with
    | nil => simp
    | cons q qs =>
      rw [List.zipWith_cons_cons, List.zipWith_cons_cons, List.sum_cons, List.sum_cons, ih,
        Point.cross_swap]
      ring

theorem signedArea_reverse (ps : List (Point ℝ)) : signedArea ps.reverse = -signedArea ps := by
  have hahead : (ps.rotate 1).reverse.rotate 1 = ps.reverse := by
    cases ps with
    | nil => rfl
    | cons p ps => simp
  -- the sides of the polygon backwards, each from its end to its beginning
  have hsides : (ps.reverse.rotate 1).zipWith Point.cross ps.reverse
      = (ps.zipWith Point.cross (ps.rotate 1)).reverse.rotate 1 := by
    rw [List.reverse_zipWith (List.length_rotate ps 1).symm, List.zipWith_rotate_distrib _ _ _ _ (by simp),
      hahead]
  rw [signedArea, sum_zipWith_cross_swap, hsides, (List.rotate_perm _ 1).sum_eq, List.sum_reverse,
    signedArea, neg_div]

/-- A polygon that is travelled backwards has the opposite area. -/
theorem RunsAgainst.signedArea_eq {k : ℕ} {ps qs : List (Point ℝ)} (h : RunsAgainst k ps qs) :
    signedArea ps = -signedArea qs := by
  rw [h.2, signedArea_reverse, signedArea_rotate]

/-- The corners of a rectangle, clockwise from the upper left one. -/
def rectangle (x₁ y₁ x₂ y₂ : ℝ) : List (Point ℝ) := [⟨x₁, y₁⟩, ⟨x₂, y₁⟩, ⟨x₂, y₂⟩, ⟨x₁, y₂⟩]

theorem signedArea_rectangle (x₁ y₁ x₂ y₂ : ℝ) :
    signedArea (rectangle x₁ y₁ x₂ y₂) = (x₂ - x₁) * (y₂ - y₁) := by
  show (x₁ * y₁ - y₁ * x₂ + (x₂ * y₂ - y₁ * x₂ + (x₂ * y₂ - y₂ * x₁ + (x₁ * y₁ - y₂ * x₁ + 0)))) / 2 = _
  ring

end ShapeOutline
