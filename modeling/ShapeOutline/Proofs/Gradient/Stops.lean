import Mathlib
import ShapeOutline.Gradient
import ShapeOutline.Proofs.Exact
import ShapeOutline.Proofs.Sorting

/-!
# The stops of gradients

No stop of a document is lost. Every stop is placed, by its position or by its number among all stops, and
then the stops are put in order. Which stops come first is determined by where they are placed, and for those
in one place by the order of the document: it decides which of two colours is on which side of an edge.

* `StopSpec.place`, `GradientSpec.placed`: where a stop is placed, and what it becomes there;
* `GradientSpec.placed_mem_Icc`: stops lie on the gradient, and are neither less nor more than opaque;
* `GradientSpec.resolve_stops`: the stops of a gradient.
-/

namespace ShapeOutline

/-- A number between zero and one is left as it is, and any other one is moved to the nearer of the two. -/
theorem unitShare_eq (v : ℝ) : unitShare v = max 0 (min 1 v) := by
  unfold unitShare Scalar.clamp
  simp only [Exact.literal_zero, Exact.literal_one]
  by_cases hneg : v < 0
  · have hmin : min 1 v = v := min_eq_right (by linarith)
    rw [if_pos hneg, if_neg (by norm_num), hmin, max_eq_left hneg.le]
  · rw [if_neg hneg]
    by_cases hlarge : 1 < v
    · rw [if_pos hlarge, min_eq_left hlarge.le, max_eq_right zero_le_one]
    · rw [if_neg hlarge, min_eq_right (not_lt.mp hlarge), max_eq_right (not_lt.mp hneg)]

theorem max_min_mem_Icc (v : ℝ) : max 0 (min 1 v) ∈ Set.Icc (0 : ℝ) 1 :=
  ⟨le_max_left _ _, max_le zero_le_one (min_le_left _ _)⟩

namespace StopSpec

/-- The place of the stop with number `i` of `n` on its gradient. -/
noncomputable def place (n i : ℕ) (s : StopSpec ℝ) : ℝ :=
  match s.position with
  | some p => max 0 (min 1 (p / 100000))
  | none => if n = 1 then 0 else i / (n - 1)

theorem place_mem_Icc {n i : ℕ} (hi : i < n) (s : StopSpec ℝ) : s.place n i ∈ Set.Icc (0 : ℝ) 1 := by
  unfold place
  cases s.position with
  | some p => exact max_min_mem_Icc _
  | none =>
    dsimp only
    by_cases hone : n = 1
    · rw [if_pos hone]
      exact ⟨le_rfl, zero_le_one⟩
    · have hlast : (i : ℝ) ≤ n - 1 := by
        have hle : (i + 1 : ℝ) ≤ n := by exact_mod_cast hi
        linarith
      have hnonneg : (0 : ℝ) ≤ n - 1 := i.cast_nonneg.trans hlast
      rw [if_neg hone]
      exact ⟨div_nonneg i.cast_nonneg hnonneg, div_le_one_of_le₀ hlast hnonneg⟩

theorem offset_eq {n i : ℕ} (hi : i < n) (s : StopSpec ℝ) : s.offset n i = s.place n i := by
  unfold offset place
  cases s.position with
  | some p =>
    dsimp only
    rw [unitShare_eq, fraction, Exact.ofInt_eq, Exact.literal_ofNat]
  | none =>
    dsimp only
    by_cases hone : n = 1
    · rw [if_neg (by omega), if_pos hone, Exact.literal_zero]
    · have hlast : ((n - 1 : ℕ) : ℝ) = n - 1 := Nat.cast_pred (by omega)
      rw [if_pos (by omega), if_neg hone, ← hlast]
      rfl

end StopSpec

namespace GradientSpec

variable (g : GradientSpec ℝ)

/-- What becomes of a stop of a gradient: it is placed, keeps its colour, and is as opaque as it can be. -/
noncomputable def placed (i : Fin g.stops.length) : GradientStop ℝ :=
  ⟨g.stops[i].place g.stops.length i, g.stops[i].color, max 0 (min 1 g.stops[i].alpha)⟩

theorem placed_mem_Icc (i : Fin g.stops.length) :
    (g.placed i).offset ∈ Set.Icc (0 : ℝ) 1 ∧ (g.placed i).alpha ∈ Set.Icc (0 : ℝ) 1 :=
  ⟨StopSpec.place_mem_Icc i.isLt _, max_min_mem_Icc _⟩

/-- Every stop is placed, in the order of the document. -/
theorem placedStops_eq : g.placedStops = (List.finRange g.stops.length).map g.placed := by
  refine List.ext_getElem (by simp [placedStops]) fun i hi _ => ?_
  have hi' : i < g.stops.length := by simpa [placedStops] using hi
  simp [placedStops, placed, StopSpec.resolve, StopSpec.offset_eq hi', unitShare_eq]

/-- The stops of a gradient are all stops of the document in their places. They ascend, and those in one
place keep the order of the document. -/
theorem resolve_stops (box : Extent ℝ) :
    (∃ order : List (Fin g.stops.length), order.Perm (List.finRange g.stops.length) ∧
      (g.resolve box).stops = order.map g.placed ∧
      order.Pairwise fun i j => (g.placed i).offset < (g.placed j).offset ∨
        (g.placed i).offset = (g.placed j).offset ∧ i < j) ∧
      (g.resolve box).stops.length = g.stops.length ∧
      (g.resolve box).stops.Pairwise (fun s t => s.offset ≤ t.offset) ∧
      ∀ s ∈ (g.resolve box).stops, s.offset ∈ Set.Icc (0 : ℝ) 1 ∧ s.alpha ∈ Set.Icc (0 : ℝ) 1 := by
  let ascends (s t : GradientStop ℝ) : Bool := s.offset ≤ t.offset
  have hoffset : Compares ascends GradientStop.offset := fun _ _ => decide_eq_true_iff
  -- to sort the stops is to sort their numbers, which ascend in the document
  let comesFirst (i j : Fin g.stops.length) : Bool := ascends (g.placed i) (g.placed j)
  have hplace : Compares comesFirst fun i => (g.placed i).offset := fun _ _ => decide_eq_true_iff
  have hstops : (g.resolve box).stops
      = ((List.finRange g.stops.length).mergeSort comesFirst).map g.placed := by
    have hagree (i : Fin g.stops.length) (_ : i ∈ List.finRange g.stops.length)
        (j : Fin g.stops.length) (_ : j ∈ List.finRange g.stops.length) :
        comesFirst i j = ascends (g.placed i) (g.placed j) := rfl
    rw [List.map_mergeSort hagree, ← placedStops_eq]
    rfl
  have hperm := List.mergeSort_perm (List.finRange g.stops.length) comesFirst
  refine ⟨⟨_, hperm, hstops, hplace.mergeSort_pairwise (List.pairwise_lt_finRange _)⟩, ?_, ?_, ?_⟩
  · rw [hstops, List.length_map, hperm.length_eq, List.length_finRange]
  · exact hoffset.ascending_mergeSort g.placedStops
  · rw [hstops]
    exact List.forall_mem_map.mpr fun i _ => g.placed_mem_Icc i

end GradientSpec

end ShapeOutline
