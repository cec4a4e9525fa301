import Mathlib
import ShapeOutline.Preset
import ShapeOutline.Proofs.Guide.Declared
import ShapeOutline.Proofs.Path.Inscribed
import ShapeOutline.Proofs.Path.Mirror
import ShapeOutline.Proofs.Path.Polygon

/-!
# Arrows that point in opposite directions

An arrow to the left and one to the right are drawn by formulas of their own, each from a point where it is
natural to begin. With the same guides they are mirror images of each other all the same: a mirror turns the
sense of a polygon round, and both are drawn clockwise, so the one goes along the mirrored points of the
other backwards. Arrows upwards and downwards are those in the frame with exchanged axes.

* `Kind.Opposes`: the pairs of kinds;
* `Preset.Opposite`, `Preset.Opposite.upright`: formulas whose polygons are mirror images of each other;
* `BlockArrow.left_opposite`, `ArrowCallout.left_opposite`: the formulas;
* `Kind.opposite_outlines`: the outlines of each pair.
-/

namespace ShapeOutline

/-- Exchanging the axes turns a flip from left to right into one from top to bottom. -/
theorem Point.transpose_flipped (w h : ℝ) (p : Point ℝ) :
    (p.flipped w h true false).transpose = p.transpose.flipped h w false true := rfl

namespace Preset

/-! ## The formulas -/

/-- In every frame that holds the named guides, the formulas draw a polygon each. The first one is the mirror
image of the second one, from top to bottom if it is `upright` and else from left to right, travelled
backwards from another of its points. -/
def Opposite (names : List String) (upright : Bool) (back forth : Frame ℝ → Guided (Path ℝ)) : Prop :=
  ∀ f : Frame ℝ, f.guides.Declares names → ∃ ps qs,
    back f = .ok (.cycles [ps]) ∧ forth f = .ok (.cycles [qs]) ∧
      ∃ k, 0 < k ∧ RunsAgainst k ps (qs.map (Point.flipped f.w f.h (!upright) upright))

/-- In the frame with exchanged axes, the formulas are mirrored from top to bottom. -/
theorem Opposite.upright {names : List String} {back forth : Frame ℝ → Guided (Path ℝ)}
    (h : Opposite names false back forth) :
    Opposite names true (fun f => (back f.transposed).map Path.transposed)
      fun f => (forth f.transposed).map Path.transposed := by
  intro f hf
  obtain ⟨ps, qs, hback, hforth, k, hk, hagainst⟩ := h f.transposed hf
  have hmirrored : (qs.map (Point.flipped f.h f.w true false)).map Point.transpose
      = (qs.map Point.transpose).map (Point.flipped f.w f.h false true) := by
    rw [List.map_map, List.map_map]
    exact List.map_congr_left fun q _ => q.transpose_flipped f.h f.w
  have htransposed := hagainst.map Point.transpose
  refine ⟨ps.map Point.transpose, qs.map Point.transpose, ?_, ?_, k, hk, ?_⟩
  · dsimp only
    rw [hback]
    exact congrArg Except.ok (Path.cycles_transposed [ps])
  · dsimp only
    rw [hforth]
    exact congrArg Except.ok (Path.cycles_transposed [qs])
  · exact hmirrored ▸ htransposed

/-- The arrow to the left begins at its tip, which is the fourth point of the mirrored one. -/
theorem BlockArrow.left_opposite : Opposite ["adj1", "adj2"] false left right := by
  intro f h
  obtain ⟨-, hvc, -, -⟩ := f.halves
  simp (disch := decide) only [left, right, shaftAndHead, Frame.adj_eq h, Frame.shortShare_eq h,
    Guided.ok_bind, Exact.literal_zero, Exact.literal_ofNat, hvc]
  generalize f.h * Scalar.pin 0 (f.value "adj1") 100000 / 200000 = shaft
  generalize f.ofShort (Scalar.pin 0 (f.value "adj2") (f.maxAdj f.w)) = head
  refine ⟨_, _, congrArg Except.ok (Path.polygon_eq_cycles _),
    congrArg Except.ok (Path.polygon_eq_cycles _), 3, by decide, ?_⟩
  have hmirrored : (Point.ofPairs [(0, f.h / 2 - shaft), (f.w - head, f.h / 2 - shaft), (f.w - head, 0),
      (f.w, f.h / 2), (f.w - head, f.h), (f.w - head, f.h / 2 + shaft), (0, f.h / 2 + shaft)]).map
        (Point.flipped f.w f.h true false)
      = [⟨f.w, f.h / 2 - shaft⟩, ⟨head, f.h / 2 - shaft⟩, ⟨head, 0⟩, ⟨0, f.h / 2⟩, ⟨head, f.h⟩,
        ⟨head, f.h / 2 + shaft⟩, ⟨f.w, f.h / 2 + shaft⟩] := by
    simp [Point.ofPairs, Point.flipped]
  rw [Bool.not_false, hmirrored]
  exact ⟨by simp, rfl⟩

theorem BlockArrow.up_opposite : Opposite ["adj1", "adj2"] true up down := left_opposite.upright

/-- The box with an arrow to the left begins at the tip, which is the sixth point of the mirrored one. -/
theorem ArrowCallout.left_opposite :
    Opposite ["adj1", "adj2", "adj3", "adj4"] false left right := by
  intro f h
  obtain ⟨-, hvc, -, -⟩ := f.halves
  obtain ⟨⟨shaft, head, length, box⟩, hmeasures⟩ : ∃ m, parts f 1 = .ok m := by
    simp (disch := decide) only [parts, Frame.adj_eq h, Guided.ok_bind]
    exact ⟨_, rfl⟩
  simp only [left, right, Exact.literal_zero, Exact.literal_one, hvc, hmeasures, Guided.ok_bind]
  refine ⟨_, _, congrArg Except.ok (Path.polygon_eq_cycles _),
    congrArg Except.ok (Path.polygon_eq_cycles _), 5, by decide, ?_⟩
  have hmirrored : (Point.ofPairs [(0, 0), (box, 0), (box, f.h / 2 - shaft), (f.w - length, f.h / 2 - shaft),
      (f.w - length, f.h / 2 - head), (f.w, f.h / 2), (f.w - length, f.h / 2 + head),
      (f.w - length, f.h / 2 + shaft), (box, f.h / 2 + shaft), (box, f.h), (0, f.h)]).map
        (Point.flipped f.w f.h true false)
      = [⟨f.w, 0⟩, ⟨f.w - box, 0⟩, ⟨f.w - box, f.h / 2 - shaft⟩, ⟨length, f.h / 2 - shaft⟩,
        ⟨length, f.h / 2 - head⟩, ⟨0, f.h / 2⟩, ⟨length, f.h / 2 + head⟩, ⟨length, f.h / 2 + shaft⟩,
        ⟨f.w - box, f.h / 2 + shaft⟩, ⟨f.w - box, f.h⟩, ⟨f.w, f.h⟩] := by
    simp [Point.ofPairs, Point.flipped]
  rw [Bool.not_false, hmirrored]
  exact ⟨by simp, rfl⟩

theorem ArrowCallout.up_opposite : Opposite ["adj1", "adj2", "adj3", "adj4"] true up down :=
  left_opposite.upright

end Preset

/-! ## The kinds -/

namespace Kind

/-- The first arrow points to the left and the second one to the right, or upwards and downwards if they are
upright. -/
inductive Opposes : (upright : Bool) → Kind → Kind → Prop
  | arrows : Opposes false .leftArrow .rightArrow
  | uprightArrows : Opposes true .upArrow .downArrow
  | callouts : Opposes false .leftArrowCallout .rightArrowCallout
  | uprightCallouts : Opposes true .upArrowCallout .downArrowCallout

/-- Arrows that point in opposite directions, and boxes with such arrows, are one closed polygon each. With
the same guides and in any box, the polygon of the first one is the mirror image of that of the second one,
travelled backwards from another of its points. -/
theorem opposite_outlines {upright : Bool} {back forth : Kind} (hpair : Opposes upright back forth)
    (w h : ℝ) {guides : GuideSet ℝ}
    (hguides : guides.Declares ((back.guides : List (GuideDecl ℝ)).map GuideDecl.name)) :
    ∃ ps qs, back.outline w h guides = .ok (.cycles [ps]) ∧
      forth.outline w h guides = .ok (.cycles [qs]) ∧
      ∃ k, 0 < k ∧ RunsAgainst k ps (qs.map (Point.flipped w h (!upright) upright)) := by
  cases hpair with
  | arrows => exact Preset.BlockArrow.left_opposite ⟨w, h, guides⟩ hguides
  | uprightArrows => exact Preset.BlockArrow.up_opposite ⟨w, h, guides⟩ hguides
  | callouts => exact Preset.ArrowCallout.left_opposite ⟨w, h, guides⟩ hguides
  | uprightCallouts => exact Preset.ArrowCallout.up_opposite ⟨w, h, guides⟩ hguides

/-- Arrows of 20 by 10 upwards and downwards, with a head that is asked to be longer than the box is high. -/
theorem opposite_outlines_long_heads :
    let guides : GuideSet ℝ := ⟨⟨2⟩, [("adj1", 50000), ("adj2", 400000)]⟩
    Opposes true upArrow downArrow ∧
      guides.Declares ((upArrow.guides : List (GuideDecl ℝ)).map GuideDecl.name) ∧
      ∃ ps qs, upArrow.outline 20 10 guides = .ok (.cycles [ps]) ∧
        downArrow.outline 20 10 guides = .ok (.cycles [qs]) ∧
        ∃ k, 0 < k ∧ RunsAgainst k ps (qs.map (Point.flipped 20 10 false true)) := by
  intro guides
  have hguides : guides.Declares ((upArrow.guides : List (GuideDecl ℝ)).map GuideDecl.name) :=
    List.forall_mem_cons.mpr ⟨⟨_, rfl⟩, List.forall_mem_singleton.mpr ⟨_, rfl⟩⟩
  exact ⟨.uprightArrows, hguides, opposite_outlines .uprightArrows 20 10 hguides⟩

end Kind

end ShapeOutline
