import Mathlib
import ShapeOutline.Proofs.Path.Subpaths
import ShapeOutline.Proofs.Preset.Table

/-!
# Subpaths of every kind

The subpaths of an outline depend on the kind of the shape only.

* `Kind.isSome_preset?_iff`: the kinds that have a formula;
* `Kind.outline_subpaths`: the subpaths of their outlines.
-/

namespace ShapeOutline.Kind

open Preset

variable {α : Type} [Scalar α]

theorem isSome_preset?_iff (k : Kind) :
    (k.preset? : Option (Preset α)).isSome = true ↔ k ∉ withoutFormula := by
  cases k <;> simp [preset?, withoutFormula]

/-- A line is one stroke that is left open. -/
theorem sketch_of_isLineLike {k : Kind} (h : k.isLineLike = true) : k.sketch = .opened := by
  revert h
  cases k <;> decide

/-- The outline of a kind that has a formula begins with a move. How many subpaths it has, and whether
one of them is left open, is the same for all boxes and all values of the guides. A line is one subpath
that is left open, and nothing in it is closed. -/
theorem outline_subpaths {k : Kind} (hk : k ∉ withoutFormula) {guides : GuideSet α}
    (hguides : guides.Declares ((k.guides : List (GuideDecl α)).map GuideDecl.name))
    (w h : α) :
    ∃ p q rest, k.outline w h guides = .ok p ∧ p.commands = .moveTo q :: rest ∧
      p.subpathCount = k.sketch.count .move ∧
      p.hasOpenSubpath = Sketch.leavesOpen false k.sketch ∧
      (k.isLineLike = true →
        p.subpathCount = 1 ∧ p.hasOpenSubpath = true ∧ .close ∉ p.commands) := by
  have hformula : (k.preset? : Option (Preset α)).isSome = true := (isSome_preset?_iff k).mpr hk
  obtain ⟨preset, hpreset⟩ := Option.isSome_iff_exists.mp hformula
  obtain ⟨p, hp, hdraw⟩ := outline_draws hpreset hguides w h
  obtain ⟨q, rest, hcommands⟩ := hdraw.exists_moveTo
  have hcount := p.subpathCount_eq
  have hopen := p.hasOpenSubpath_eq
  have hclose := p.close_mem_iff
  rw [hdraw.sketch_eq] at hcount hopen hclose
  refine ⟨p, q, rest, hp, hcommands, hcount, hopen, fun hline => ?_⟩
  rw [sketch_of_isLineLike hline] at hcount hopen hclose
  exact ⟨hcount, hopen, fun hmem => by simpa [Sketch.opened] using hclose.mp hmem⟩

/-- An arc in a box without width that is turned upside down, its guide out of range. -/
theorem arc_subpaths :
    ∃ p q rest,
      arc.outline (0 : ℝ) (-5) (.resolve arc.guides [⟨"adj1", "val -1"⟩] .one) = .ok p ∧
      p.commands = .moveTo q :: rest ∧ p.subpathCount = 1 ∧ p.hasOpenSubpath = true ∧
      (arc.isLineLike = true →
        p.subpathCount = 1 ∧ p.hasOpenSubpath = true ∧ .close ∉ p.commands) :=
  outline_subpaths (by decide) (GuideSet.resolve_declares arc.guides _ .one) 0 (-5)

end ShapeOutline.Kind
