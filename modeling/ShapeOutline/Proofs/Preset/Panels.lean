import Mathlib
import ShapeOutline.Proofs.Preset.Outlines
import ShapeOutline.Preset.Bracket
import ShapeOutline.Preset.Banner
import ShapeOutline.Preset.Callout

/-!
# What brackets, banners and callouts draw

The formulas of brackets and braces, ribbons, scrolls and waves, and speech bubbles: the guides that
each of them reads, and the sketch of what it draws.
-/

namespace ShapeOutline.Preset

open Guided (ok_bind)
open Sketch (figures)

variable {α : Type} [Scalar α]

/-! ## Brackets and braces -/

namespace Bracket

@[simp] theorem leftBracket_outlines : Outlines ["adj"] (figures 0 1) (leftBracket (α := α)) := by
  intro f h
  simp (disch := decide) only [leftBracket, curveHeight, Frame.shortShare_eq h, ok_bind]
  exact ⟨_, rfl, .drawn rfl⟩

@[simp] theorem rightBracket_outlines : Outlines ["adj"] (figures 0 1) (rightBracket (α := α)) := by
  intro f h
  simp (disch := decide) only [rightBracket, curveHeight, Frame.shortShare_eq h, ok_bind]
  exact ⟨_, rfl, .drawn rfl⟩

@[simp] theorem leftBrace_outlines :
    Outlines ["adj1", "adj2"] (figures 0 1) (leftBrace (α := α)) := by
  intro f h
  simp (disch := decide) only [leftBrace, braceParts, Frame.adj_eq h, Frame.shortShare_eq h,
    ok_bind]
  exact ⟨_, rfl, .drawn rfl⟩

@[simp] theorem rightBrace_outlines :
    Outlines ["adj1", "adj2"] (figures 0 1) (rightBrace (α := α)) := by
  intro f h
  simp (disch := decide) only [rightBrace, braceParts, Frame.adj_eq h, Frame.shortShare_eq h,
    ok_bind]
  exact ⟨_, rfl, .drawn rfl⟩

@[simp] theorem bracketPair_outlines : Outlines ["adj"] (figures 0 2) (bracketPair (α := α)) := by
  intro f h
  simp (disch := decide) only [bracketPair, Frame.shortShare_eq h, ok_bind]
  exact ⟨_, rfl, .drawn rfl⟩

@[simp] theorem bracePair_outlines : Outlines ["adj"] (figures 0 2) (bracePair (α := α)) := by
  intro f h
  simp (disch := decide) only [bracePair, Frame.shortShare_eq h, ok_bind]
  exact ⟨_, rfl, .drawn rfl⟩

end Bracket

/-! ## Banners -/

namespace Banner

@[simp] theorem ribbonDown_outlines :
    Outlines ["adj1", "adj2"] (figures 1 0) (ribbonDown (α := α)) := by
  intro f h
  simp (disch := decide) only [ribbonDown, Frame.adj_eq h, ok_bind]
  exact ⟨_, rfl, .drawn rfl⟩

@[simp] theorem ribbonUp_outlines : Outlines ["adj1", "adj2"] (figures 1 0) (ribbonUp (α := α)) :=
  ribbonDown_outlines.flipped false true

@[simp] theorem verticalScroll_outlines :
    Outlines ["adj"] (figures 2 0) (verticalScroll (α := α)) := by
  intro f h
  simp (disch := decide) only [verticalScroll, Frame.shortShare_eq h, ok_bind]
  exact ⟨_, rfl, .drawn rfl⟩

@[simp] theorem horizontalScroll_outlines :
    Outlines ["adj"] (figures 2 0) (horizontalScroll (α := α)) :=
  verticalScroll_outlines.transposed

@[simp] theorem singleWave_outlines :
    Outlines ["adj1", "adj2"] (figures 1 0) (singleWave (α := α)) := by
  intro f h
  simp (disch := decide) only [singleWave, wave, Frame.adj_eq h, ok_bind]
  exact ⟨_, rfl, .drawn rfl⟩

@[simp] theorem doubleWave_outlines :
    Outlines ["adj1", "adj2"] (figures 1 0) (doubleWave (α := α)) := by
  intro f h
  simp (disch := decide) only [doubleWave, wave, Frame.adj_eq h, ok_bind]
  exact ⟨_, rfl, .drawn rfl⟩

end Banner

/-! ## Speech bubbles -/

namespace Callout

/-- A bubble is one closed subpath, whether its corners are rounded or not. -/
theorem Wedge.outline_drawable (v : Wedge α) (w h radius : α) :
    (v.outline w h radius).Drawable (figures 1 0) := by
  unfold outline
  cases decide (0 < radius) with
  | false => exact .drawn rfl
  | true => exact .drawn rfl

@[simp] theorem wedgeRect_outlines :
    Outlines ["adj1", "adj2"] (figures 1 0) (wedgeRect (α := α)) := by
  intro f h
  simp (disch := decide) only [wedgeRect, tipOffset, Frame.adj_eq h, ok_bind]
  exact ⟨_, rfl, Wedge.outline_drawable _ _ _ _⟩

@[simp] theorem wedgeRoundRect_outlines :
    Outlines ["adj1", "adj2", "adj3"] (figures 1 0) (wedgeRoundRect (α := α)) := by
  intro f h
  simp (disch := decide) only [wedgeRoundRect, tipOffset, Frame.adj_eq h, ok_bind]
  exact ⟨_, rfl, Wedge.outline_drawable _ _ _ _⟩

@[simp] theorem wedgeEllipse_outlines :
    Outlines ["adj1", "adj2"] (figures 1 0) (wedgeEllipse (α := α)) := by
  intro f h
  simp (disch := decide) only [wedgeEllipse, tipOffset, Frame.adj_eq h, ok_bind]
  exact ⟨_, rfl, .drawn rfl⟩

@[simp] theorem cloud_drawable (f : Frame α) : (cloud f).Drawable (figures 1 0) := .drawnIn rfl

/-- A cloud and three bubbles. -/
@[simp] theorem cloudCallout_outlines :
    Outlines ["adj1", "adj2"] (figures 4 0) (cloudCallout (α := α)) := by
  intro f h
  simp (disch := decide) only [cloudCallout, tipOffset, Frame.adj_eq h, ok_bind]
  exact ⟨_, rfl, (cloud_drawable f).append (.drawn rfl) rfl⟩

/-- The points of a leader line are read one by one. -/
theorem leader_eq {f : Frame α} {names : List String} (h : f.guides.Declares names) {points : ℕ}
    (hnames : ∀ g ∈ leaderGuides.take points, g.1 ∈ names ∧ g.2 ∈ names) :
    leader f points = .ok ((leaderGuides.take points).map fun g =>
      (f.ofWidth (f.value g.2), f.ofHeight (f.value g.1))) := by
  unfold leader
  generalize leaderGuides.take points = guides at hnames ⊢
  induction guides with
  | nil => rfl
  | cons g gs ih =>
    obtain ⟨⟨hvertical, hhorizontal⟩, hgs⟩ := List.forall_mem_cons.mp hnames
    rw [List.mapM_cons, ih hgs]
    simp only [Frame.adj_eq h hvertical, Frame.adj_eq h hhorizontal, ok_bind]
    rfl

/-- A box, a bar if there is an accent, and a leader line. -/
@[simp] theorem boxed_outlines {names : List String} {points openCount : ℕ} {accent : Bool}
    (hpoints : 2 ≤ points)
    (hnames : ∀ g ∈ leaderGuides.take points, g.1 ∈ names ∧ g.2 ∈ names)
    (haccent : (if accent then 2 else 1) = openCount) :
    Outlines names (figures 1 openCount) (boxed (α := α) points accent) := by
  intro f h
  subst haccent
  have hlength : 2 ≤ (leaderGuides.take points).length := by
    rw [List.length_take]
    exact le_min hpoints (by decide)
  have hleader := leader_eq h hnames
  rw [boxed, hleader, ok_bind]
  generalize leaderGuides.take points = guides at hlength
  -- two points make a line
  rcases guides with _ | ⟨g, _ | ⟨g', guides⟩⟩
  · cases hlength
  · cases Nat.le_of_succ_le_succ hlength
  · rw [List.map_cons, List.map_cons]
    refine ⟨_, rfl, .drawn ?_⟩
    rw [Instruction.sketch?, Instruction.sketchBefore?_append, Instruction.sketchBefore?_polyline]
    cases accent with
    | false => rfl
    | true => rfl

end Callout

end ShapeOutline.Preset
