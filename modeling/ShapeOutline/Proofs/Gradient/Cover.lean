import Mathlib
import ShapeOutline.Gradient
import ShapeOutline.Proofs.Exact
import ShapeOutline.Proofs.Path.Spans

/-!
# Gradients cover their boxes

A linear gradient runs in its stored direction, and just as far as the box reaches in this direction. It is
bounded axis by axis: along one side, the points farthest in a direction and against it are the two ends. A
radial gradient reaches just as far as the corner that is farthest from its centre, and no point of the box
is farther than this corner.

* `Point.shareAlong`: where a point is along a vector;
* `abs_along_side_le`, `farEnd_along`: how far a side reaches in a direction;
* `GradientGeometry.ofDirection_eq`: the vector of a linear gradient, in device units;
* `GradientGeometry.exists_corner_far`: the farthest corner;
* `GradientSpec.resolve_covers`: every gradient covers its box.
-/

namespace ShapeOutline

/-! ## Sides in a direction -/

/-- A point of a side is no farther from its middle in a direction than half the side. -/
theorem abs_along_side_le {x s : ℝ} (hx : Fits x s) (d : ℝ) : |(x - s / 2) * d| ≤ s * |d| / 2 := by
  obtain ⟨hlo, hhi⟩ := hx
  have hmiddle : |x - s / 2| ≤ s / 2 := by
    rw [abs_le]
    constructor <;> linarith
  calc |(x - s / 2) * d| = |x - s / 2| * |d| := abs_mul _ _
    _ ≤ s / 2 * |d| := by gcongr
    _ = s * |d| / 2 := by ring

/-- The end of a side that is farthest in a direction, as a share of the side. -/
noncomputable def farEnd (d : ℝ) : ℝ := if 0 ≤ d then 1 else 0

theorem farEnd_eq (d : ℝ) : farEnd d = 0 ∨ farEnd d = 1 := by
  unfold farEnd
  split
  · exact .inr rfl
  · exact .inl rfl

/-- The ends are half the side from its middle. -/
theorem farEnd_along (s d : ℝ) :
    (farEnd d * s - s / 2) * d = s * |d| / 2 ∧ ((1 - farEnd d) * s - s / 2) * d = -(s * |d| / 2) := by
  unfold farEnd
  by_cases hd : 0 ≤ d
  · rw [if_pos hd, abs_of_nonneg hd]
    constructor <;> ring
  · rw [if_neg hd, abs_of_neg (not_le.mp hd)]
    constructor <;> ring

namespace Point

/-- Where the projection of a point onto a vector is, as a share of the vector. -/
noncomputable def shareAlong (p start stop : Point ℝ) : ℝ :=
  ((p.x - start.x) * (stop.x - start.x) + (p.y - start.y) * (stop.y - start.y))
    / ((stop.x - start.x) ^ 2 + (stop.y - start.y) ^ 2)

/-- A vector around a point, in a direction of length one. -/
theorem shareAlong_eq {u : Point ℝ} (hu : u.x ^ 2 + u.y ^ 2 = 1) {half : ℝ} (hhalf : 0 < half)
    (c p : Point ℝ) :
    p.shareAlong (c - u.times half) (c + u.times half)
      = ((p.x - c.x) * u.x + (p.y - c.y) * u.y) / (2 * half) + 1 / 2 := by
  have hvector (a v : ℝ) : a + v * half - (a - v * half) = 2 * half * v := by ring
  have hlength : (2 * half * u.x) ^ 2 + (2 * half * u.y) ^ 2 = (2 * half) ^ 2 := by
    linear_combination (2 * half) ^ 2 * hu
  show ((p.x - (c.x - u.x * half)) * (c.x + u.x * half - (c.x - u.x * half))
      + (p.y - (c.y - u.y * half)) * (c.y + u.y * half - (c.y - u.y * half)))
    / ((c.x + u.x * half - (c.x - u.x * half)) ^ 2
      + (c.y + u.y * half - (c.y - u.y * half)) ^ 2) = _
  rw [hvector, hvector, hlength]
  field_simp
  linear_combination half * hu

end Point

/-- The middle of a focus rectangle, in fractions of the box. -/
noncomputable def FocusRect.middle (focus : FocusRect) : Point ℝ :=
  ⟨(focus.left / 100000 + 1 - focus.right / 100000) / 2,
    (focus.top / 100000 + 1 - focus.bottom / 100000) / 2⟩

namespace GradientGeometry

/-! ## Linear gradients -/

/-- The corners of the box in fractions of it are those with whole coordinates. -/
theorem mem_corners_iff (c : Point ℝ) :
    c ∈ (corners : List (Point ℝ)) ↔ (c.x = 0 ∨ c.x = 1) ∧ (c.y = 0 ∨ c.y = 1) := by
  obtain ⟨x, y⟩ := c
  simp only [corners, Exact.literal_zero, Exact.literal_one, List.mem_cons, Point.mk.injEq,
    List.not_mem_nil, or_false]
  tauto

/-- A stored direction, of length one. -/
noncomputable def storedDirection (angle : Int) : Point ℝ :=
  ⟨Real.cos (angle / 60000 * (Real.pi / 180)), Real.sin (angle / 60000 * (Real.pi / 180))⟩

theorem storedDirection_length (angle : Int) :
    (storedDirection angle).x ^ 2 + (storedDirection angle).y ^ 2 = 1 :=
  Real.cos_sq_add_sin_sq _

/-- How far a box reaches in a direction. -/
noncomputable def reach (box : Extent ℝ) (u : Point ℝ) : ℝ := (box.w * |u.x| + box.h * |u.y|) / 2

/-- The quarter turn that is added to a stored angle is taken back by the formula of the vector. -/
theorem turned_direction (angle : Int) :
    (sinCos ((Angle.ofUnits angle).degrees + 90)).1 = (storedDirection angle).x ∧
      -(sinCos ((Angle.ofUnits angle).degrees + 90)).2 = (storedDirection angle).y := by
  have hturned : ((Angle.ofUnits angle).degrees + 90 : ℝ) * (Real.pi / 180)
      = angle / 60000 * (Real.pi / 180) + Real.pi / 2 := by
    rw [Angle.ofUnits, Exact.ofInt_eq, Exact.literal_ofNat]
    ring
  rw [sinCos_eq, hturned, Real.sin_add_pi_div_two, Real.cos_add_pi_div_two]
  exact ⟨rfl, neg_neg _⟩

/-- The ends of the vector are given in fractions of a side. -/
theorem end_stretched {s : ℝ} (hs : 0 < s) (d : ℝ) :
    (0.5 - Scalar.quotient d s) * s = s / 2 - d ∧ (0.5 + Scalar.quotient d s) * s = s / 2 + d := by
  rw [Exact.quotient_eq]
  constructor
  · field_simp
    ring
  · field_simp
    ring

/-- The vector of a linear gradient goes through the middle of the box, in the stored direction, and in both
directions as far as the box reaches. -/
theorem ofDirection_eq (angle : Int) {box : Extent ℝ} (hw : 0 < box.w) (hh : 0 < box.h) :
    let u := storedDirection angle
    ∃ degrees start stop, ofDirection angle box = .linear degrees start stop ∧
      start.stretch ⟨box.w, box.h⟩ = ⟨box.w / 2, box.h / 2⟩ - u.times (reach box u) ∧
      stop.stretch ⟨box.w, box.h⟩ = ⟨box.w / 2, box.h / 2⟩ + u.times (reach box u) := by
  intro u
  obtain ⟨hx, hy⟩ := turned_direction angle
  simp only [ofDirection, hx, hy, Exact.literal_ofNat]
  obtain ⟨hstart_x, hstop_x⟩ := end_stretched hw (u.x * reach box u)
  obtain ⟨hstart_y, hstop_y⟩ := end_stretched hh (u.y * reach box u)
  exact ⟨_, _, _, rfl, congrArg₂ Point.mk hstart_x hstart_y, congrArg₂ Point.mk hstop_x hstop_y⟩

section

variable {box : Extent ℝ} {u : Point ℝ}

/-- A box that has an extent reaches somewhere in every direction. -/
theorem reach_pos (hw : 0 < box.w) (hh : 0 < box.h) (hu : u.x ^ 2 + u.y ^ 2 = 1) :
    0 < reach box u := by
  -- a direction of length one goes along one axis at least
  have hdirection : 0 < |u.x| ∨ 0 < |u.y| := by
    by_contra hnone
    rw [not_or, abs_pos, abs_pos, not_not, not_not] at hnone
    rw [hnone.1, hnone.2] at hu
    norm_num at hu
  unfold reach
  rcases hdirection with hx | hy
  · positivity
  · positivity

/-- The projection of a point of the box onto the vector lies on the vector. -/
theorem shareAlong_mem (hw : 0 < box.w) (hh : 0 < box.h) (hu : u.x ^ 2 + u.y ^ 2 = 1) {p : Point ℝ}
    (hp : p.InBox box.w box.h) :
    p.shareAlong (⟨box.w / 2, box.h / 2⟩ - u.times (reach box u))
      (⟨box.w / 2, box.h / 2⟩ + u.times (reach box u)) ∈ Set.Icc 0 1 := by
  have hreach := reach_pos hw hh hu
  have hx := abs_le.mp (abs_along_side_le hp.1 u.x)
  have hy := abs_le.mp (abs_along_side_le hp.2 u.y)
  -- the box reaches as far as its two sides together
  have hsum : reach box u = box.w * |u.x| / 2 + box.h * |u.y| / 2 := add_div _ _ _
  rw [Point.shareAlong_eq hu hreach, Set.mem_Icc]
  constructor
  · have hlow : -(1 / 2) ≤ ((p.x - box.w / 2) * u.x + (p.y - box.h / 2) * u.y) / (2 * reach box u) := by
      rw [le_div_iff₀ (by linarith)]
      linarith [hx.1, hy.1]
    linarith
  · have hhigh : ((p.x - box.w / 2) * u.x + (p.y - box.h / 2) * u.y) / (2 * reach box u) ≤ 1 / 2 := by
      rw [div_le_iff₀ (by linarith)]
      linarith [hx.2, hy.2]
    linarith

/-- The corner that is farthest in a direction, in fractions of the box. -/
noncomputable def farCorner (u : Point ℝ) : Point ℝ := ⟨farEnd u.x, farEnd u.y⟩

/-- The corner on the other side of the middle. -/
noncomputable def nearCorner (u : Point ℝ) : Point ℝ := ⟨1 - farEnd u.x, 1 - farEnd u.y⟩

theorem farCorner_mem (u : Point ℝ) : farCorner u ∈ corners :=
  (mem_corners_iff _).mpr ⟨farEnd_eq u.x, farEnd_eq u.y⟩

theorem nearCorner_mem (u : Point ℝ) : nearCorner u ∈ corners := by
  have hother (d : ℝ) : 1 - farEnd d = 0 ∨ 1 - farEnd d = 1 := by
    rcases farEnd_eq d with h | h
    · exact .inr (by rw [h, sub_zero])
    · exact .inl (by rw [h, sub_self])
  exact (mem_corners_iff _).mpr ⟨hother u.x, hother u.y⟩

/-- The vector begins and ends where it passes two corners of the box. -/
theorem shareAlong_corners (hw : 0 < box.w) (hh : 0 < box.h) (hu : u.x ^ 2 + u.y ^ 2 = 1) :
    let start := ⟨box.w / 2, box.h / 2⟩ - u.times (reach box u)
    let stop := ⟨box.w / 2, box.h / 2⟩ + u.times (reach box u)
    ((nearCorner u).stretch ⟨box.w, box.h⟩).shareAlong start stop = 0 ∧
      ((farCorner u).stretch ⟨box.w, box.h⟩).shareAlong start stop = 1 := by
  intro start stop
  have hreach := (reach_pos hw hh hu).ne'
  have hsum : box.w * |u.x| / 2 + box.h * |u.y| / 2 = reach box u := (add_div _ _ _).symm
  rw [Point.shareAlong_eq hu (reach_pos hw hh hu), Point.shareAlong_eq hu (reach_pos hw hh hu)]
  constructor
  · show (((1 - farEnd u.x) * box.w - box.w / 2) * u.x + ((1 - farEnd u.y) * box.h - box.h / 2) * u.y)
      / (2 * reach box u) + 1 / 2 = 0
    rw [(farEnd_along _ _).2, (farEnd_along _ _).2, ← neg_add, hsum]
    field_simp
    norm_num
  · show ((farEnd u.x * box.w - box.w / 2) * u.x + (farEnd u.y * box.h - box.h / 2) * u.y)
      / (2 * reach box u) + 1 / 2 = 1
    rw [(farEnd_along _ _).1, (farEnd_along _ _).1, hsum]
    field_simp
    norm_num

end

/-! ## Radial gradients -/

/-- The largest of some numbers is no less than any of them, and it is one of them or what it is compared
with. -/
theorem foldl_max_spec (numbers : List ℝ) (least : ℝ) :
    least ≤ numbers.foldl max least ∧ (∀ x ∈ numbers, x ≤ numbers.foldl max least) ∧
      (numbers.foldl max least = least ∨ numbers.foldl max least ∈ numbers) := by
  induction numbers generalizing least with
  | nil => exact ⟨le_rfl, fun x hx => absurd hx List.not_mem_nil, .inl rfl⟩
  | cons a numbers ih =>
    obtain ⟨hleast, hall, hsome⟩ := ih (max least a)
    rw [List.foldl_cons]
    refine ⟨(le_max_left _ _).trans hleast, ?_, ?_⟩
    · exact List.forall_mem_cons.mpr ⟨(le_max_right _ _).trans hleast, hall⟩
    · rcases hsome with h | h
      · rw [h]
        rcases max_choice least a with hmax | hmax
        · exact .inl hmax
        · rw [hmax]
          exact .inr List.mem_cons_self
      · exact .inr (List.mem_cons_of_mem _ h)

/-- Along one side, the end on the other side of its middle is the farthest from a coordinate. -/
theorem abs_sub_le_farEnd {x : ℝ} (hx : Fits x 1) (c : ℝ) : |x - c| ≤ |farEnd (1 / 2 - c) - c| := by
  obtain ⟨hlo, hhi⟩ := hx
  unfold farEnd
  by_cases hc : 0 ≤ 1 / 2 - c
  · rw [if_pos hc, abs_of_nonneg (by linarith : 0 ≤ 1 - c), abs_le]
    constructor <;> linarith
  · rw [if_neg hc, zero_sub, abs_neg, abs_of_pos (by linarith : 0 < c), abs_le]
    constructor <;> linarith

/-- No point of the box is farther from the centre than the farthest corner. -/
theorem exists_corner_far {p : Point ℝ} (hp : p.InBox 1 1) (center : Point ℝ) :
    ∃ c ∈ (corners : List (Point ℝ)), (p - center).norm ≤ (c - center).norm := by
  -- it is the corner beyond the middle of the box, axis by axis
  refine ⟨farCorner (⟨1 / 2, 1 / 2⟩ - center), farCorner_mem _, Real.sqrt_le_sqrt ?_⟩
  have hx := abs_le_iff_mul_self_le.mp (abs_sub_le_farEnd hp.1 center.x)
  have hy := abs_le_iff_mul_self_le.mp (abs_sub_le_farEnd hp.2 center.y)
  exact add_le_add hx hy

/-- The circle around a point that reaches the farthest corner. -/
theorem radius_spec (center : Point ℝ) :
    let radius := ((corners.map fun c => (c - center).norm).foldl Scalar.max 0 : ℝ)
    (∀ p : Point ℝ, p.InBox 1 1 → (p - center).norm ≤ radius) ∧
      ∃ c ∈ (corners : List (Point ℝ)), (c - center).norm = radius := by
  intro radius
  obtain ⟨-, hall, hsome⟩ := foldl_max_spec (corners.map fun c => (c - center).norm) 0
  have hcorner {c : Point ℝ} (hc : c ∈ corners) : (c - center).norm ≤ radius :=
    hall _ (List.mem_map_of_mem hc)
  constructor
  · intro p hp
    obtain ⟨c, hc, hfar⟩ := exists_corner_far hp center
    exact hfar.trans (hcorner hc)
  · rcases hsome with hzero | hmem
    · -- a circle without an extent is in every corner at once
      have horigin : (⟨0, 0⟩ : Point ℝ) ∈ corners := (mem_corners_iff _).mpr ⟨.inl rfl, .inl rfl⟩
      exact ⟨_, horigin, le_antisymm (hcorner horigin) (hzero.le.trans (Real.sqrt_nonneg _))⟩
    · obtain ⟨c, hc, hreached⟩ := List.mem_map.mp hmem
      exact ⟨c, hc, hreached⟩

/-! ## Every gradient -/

/-- The geometry covers a box, for a shade. A vector has the stored direction, begins and ends at corners of
the box, and holds the projections of all its points. A circle is around the middle of the focus rectangle,
goes through a corner, and holds all points of the box. -/
def Covers (box : Extent ℝ) : Shade → GradientGeometry ℝ → Prop
  | .linear angle, .linear _ start stop =>
    let size : Point ℝ := ⟨box.w, box.h⟩
    let a := start.stretch size
    let b := stop.stretch size
    (∃ k > 0, b - a = (storedDirection angle).times k) ∧
      (∀ p : Point ℝ, p.InBox box.w box.h → p.shareAlong a b ∈ Set.Icc 0 1) ∧
      (∃ c ∈ corners, (c.stretch size).shareAlong a b = 0) ∧
      ∃ c ∈ corners, (c.stretch size).shareAlong a b = 1
  | .radial focus, .radial center radius =>
    center = focus.middle ∧
      (∀ p : Point ℝ, p.InBox 1 1 → (p - center).norm ≤ radius) ∧
      ∃ c ∈ (corners : List (Point ℝ)), (c - center).norm = radius
  | _, _ => False

theorem ofDirection_covers (angle : Int) {box : Extent ℝ} (hw : 0 < box.w) (hh : 0 < box.h) :
    Covers box (.linear angle) (ofDirection angle box) := by
  obtain ⟨degrees, start, stop, hvector, hstart, hstop⟩ := ofDirection_eq angle hw hh
  have hu := storedDirection_length angle
  generalize hdirection : storedDirection angle = u at hstart hstop hu
  obtain ⟨hnear, hfar⟩ := shareAlong_corners hw hh hu
  rw [hvector]
  dsimp only [Covers]
  rw [hstart, hstop, hdirection]
  refine ⟨⟨2 * reach box u, ?_, ?_⟩, fun p hp => shareAlong_mem hw hh hu hp,
    ⟨_, nearCorner_mem u, hnear⟩, ⟨_, farCorner_mem u, hfar⟩⟩
  · have hreach := reach_pos hw hh hu
    positivity
  · have hdouble (a v : ℝ) : a + v * reach box u - (a - v * reach box u) = v * (2 * reach box u) := by
      ring
    exact congrArg₂ Point.mk (hdouble _ _) (hdouble _ _)

theorem ofFocus_covers (focus : FocusRect) (box : Extent ℝ) :
    Covers box (.radial focus) (ofFocus focus) := by
  have hcircle : ofFocus focus
      = .radial focus.middle ((corners.map fun c => (c - focus.middle).norm).foldl Scalar.max 0) := by
    simp only [ofFocus, FocusRect.middle, fraction, Exact.ofInt_eq, Exact.literal_ofNat,
      Exact.literal_one, Exact.literal_zero]
  rw [hcircle]
  exact ⟨rfl, radius_spec focus.middle⟩

end GradientGeometry

/-- Every gradient covers every box that has an extent: a linear one between two corners in its direction,
and a radial one from the middle of its focus rectangle to a corner. -/
theorem GradientSpec.resolve_covers (g : GradientSpec ℝ) {box : Extent ℝ} (hw : 0 < box.w)
    (hh : 0 < box.h) : (g.resolve box).geometry.Covers box g.shade := by
  show GradientGeometry.Covers box g.shade (.ofShade g.shade box)
  cases g.shade with
  | linear angle => exact GradientGeometry.ofDirection_covers angle hw hh
  | radial focus => exact GradientGeometry.ofFocus_covers focus box

/-- A gradient to the lower right, in a wide box. -/
theorem GradientSpec.resolve_covers_wide :
    let g : GradientSpec ℝ := ⟨[], .linear 2700000⟩
    (0 : ℝ) < 200 ∧ (0 : ℝ) < 50 ∧
      (g.resolve ⟨200, 50⟩).geometry.Covers ⟨200, 50⟩ (.linear 2700000) := by
  intro g
  have hw : (0 : ℝ) < 200 := by norm_num
  have hh : (0 : ℝ) < 50 := by norm_num
  exact ⟨hw, hh, GradientSpec.resolve_covers g hw hh⟩

end ShapeOutline
